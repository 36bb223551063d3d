/-!
# Paired brackets

Brackets that open and close one another. Each row holds a bracket and the opening bracket that
stands for its pair; the two spellings of the angle brackets stand for one pair.
-/

namespace Lettering.Bidi.Brackets

/-- Opening brackets. -/
def opening : List (Nat × Nat) := [
  (0x28, 0x28), (0x5B, 0x5B), (0x7B, 0x7B), (0xF3A, 0xF3A), (0xF3C, 0xF3C), (0x169B, 0x169B),
  (0x2045, 0x2045), (0x207D, 0x207D), (0x208D, 0x208D), (0x2308, 0x2308), (0x230A, 0x230A),
  (0x2329, 0x3008), (0x2768, 0x2768), (0x276A, 0x276A), (0x276C, 0x276C), (0x276E, 0x276E),
  (0x2770, 0x2770), (0x2772, 0x2772), (0x2774, 0x2774), (0x27C5, 0x27C5), (0x27E6, 0x27E6),
  (0x27E8, 0x27E8), (0x27EA, 0x27EA), (0x27EC, 0x27EC), (0x27EE, 0x27EE), (0x2983, 0x2983),
  (0x2985, 0x2985), (0x2987, 0x2987), (0x2989, 0x2989), (0x298B, 0x298B), (0x298D, 0x298D),
  (0x298F, 0x298F), (0x2991, 0x2991), (0x2993, 0x2993), (0x2995, 0x2995), (0x2997, 0x2997),
  (0x29D8, 0x29D8), (0x29DA, 0x29DA), (0x29FC, 0x29FC), (0x2E22, 0x2E22), (0x2E24, 0x2E24),
  (0x2E26, 0x2E26), (0x2E28, 0x2E28), (0x2E55, 0x2E55), (0x2E57, 0x2E57), (0x2E59, 0x2E59),
  (0x2E5B, 0x2E5B), (0x3008, 0x3008), (0x300A, 0x300A), (0x300C, 0x300C), (0x300E, 0x300E),
  (0x3010, 0x3010), (0x3014, 0x3014), (0x3016, 0x3016), (0x3018, 0x3018), (0x301A, 0x301A),
  (0xFE59, 0xFE59), (0xFE5B, 0xFE5B), (0xFE5D, 0xFE5D), (0xFF08, 0xFF08), (0xFF3B, 0xFF3B),
  (0xFF5B, 0xFF5B), (0xFF5F, 0xFF5F), (0xFF62, 0xFF62)]

/-- Closing brackets. -/
def closing : List (Nat × Nat) := [
  (0x29, 0x28), (0x5D, 0x5B), (0x7D, 0x7B), (0xF3B, 0xF3A), (0xF3D, 0xF3C), (0x169C, 0x169B),
  (0x2046, 0x2045), (0x207E, 0x207D), (0x208E, 0x208D), (0x2309, 0x2308), (0x230B, 0x230A),
  (0x232A, 0x3008), (0x2769, 0x2768), (0x276B, 0x276A), (0x276D, 0x276C), (0x276F, 0x276E),
  (0x2771, 0x2770), (0x2773, 0x2772), (0x2775, 0x2774), (0x27C6, 0x27C5), (0x27E7, 0x27E6),
  (0x27E9, 0x27E8), (0x27EB, 0x27EA), (0x27ED, 0x27EC), (0x27EF, 0x27EE), (0x2984, 0x2983),
  (0x2986, 0x2985), (0x2988, 0x2987), (0x298A, 0x2989), (0x298C, 0x298B), (0x298E, 0x298F),
  (0x2990, 0x298D), (0x2992, 0x2991), (0x2994, 0x2993), (0x2996, 0x2995), (0x2998, 0x2997),
  (0x29D9, 0x29D8), (0x29DB, 0x29DA), (0x29FD, 0x29FC), (0x2E23, 0x2E22), (0x2E25, 0x2E24),
  (0x2E27, 0x2E26), (0x2E29, 0x2E28), (0x2E56, 0x2E55), (0x2E58, 0x2E57), (0x2E5A, 0x2E59),
  (0x2E5C, 0x2E5B), (0x3009, 0x3008), (0x300B, 0x300A), (0x300D, 0x300C), (0x300F, 0x300E),
  (0x3011, 0x3010), (0x3015, 0x3014), (0x3017, 0x3016), (0x3019, 0x3018), (0x301B, 0x301A),
  (0xFE5A, 0xFE59), (0xFE5C, 0xFE5B), (0xFE5E, 0xFE5D), (0xFF09, 0xFF08), (0xFF3D, 0xFF3B),
  (0xFF5D, 0xFF5B), (0xFF60, 0xFF5F), (0xFF63, 0xFF62)]

/-- The pair that a character opens. -/
def opens? (c : Char) : Option Nat := opening.lookup c.toNat

/-- The pair that a character closes. -/
def closes? (c : Char) : Option Nat := closing.lookup c.toNat

end Lettering.Bidi.Brackets
