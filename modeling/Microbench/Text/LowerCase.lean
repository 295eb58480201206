/-!
# Lower case

The characters that lower-casing changes, as runs of code points with a step.  A text is in lower
case when it has none of them.
-/

namespace Microbench.Text

/-- Runs of the code points with the property Changes_When_Lowercased: first, last and step. -/
def notLowerRuns : List (Nat × Nat × Nat) :=
  [(0x41, 0x5a, 1), (0xc0, 0xd6, 1), (0xd8, 0xde, 1), (0x100, 0x136, 2), (0x139, 0x147, 2),
    (0x14a, 0x178, 2), (0x179, 0x17d, 2), (0x181, 0x182, 1), (0x184, 0x186, 2), (0x187, 0x189, 2),
    (0x18a, 0x18b, 1), (0x18e, 0x191, 1), (0x193, 0x194, 1), (0x196, 0x198, 1), (0x19c, 0x19d, 1),
    (0x19f, 0x1a0, 1), (0x1a2, 0x1a6, 2), (0x1a7, 0x1a9, 2), (0x1ac, 0x1ae, 2), (0x1af, 0x1b1, 2),
    (0x1b2, 0x1b3, 1), (0x1b5, 0x1b7, 2), (0x1b8, 0x1b8, 1), (0x1bc, 0x1bc, 1), (0x1c4, 0x1c5, 1),
    (0x1c7, 0x1c8, 1), (0x1ca, 0x1cb, 1), (0x1cd, 0x1db, 2), (0x1de, 0x1ee, 2), (0x1f1, 0x1f2, 1),
    (0x1f4, 0x1f6, 2), (0x1f7, 0x1f8, 1), (0x1fa, 0x232, 2), (0x23a, 0x23b, 1), (0x23d, 0x23e, 1),
    (0x241, 0x243, 2), (0x244, 0x246, 1), (0x248, 0x24e, 2), (0x370, 0x372, 2), (0x376, 0x376, 1),
    (0x37f, 0x37f, 1), (0x386, 0x388, 2), (0x389, 0x38a, 1), (0x38c, 0x38e, 2), (0x38f, 0x391, 2),
    (0x392, 0x3a1, 1), (0x3a3, 0x3ab, 1), (0x3cf, 0x3cf, 1), (0x3d8, 0x3ee, 2), (0x3f4, 0x3f4, 1),
    (0x3f7, 0x3f9, 2), (0x3fa, 0x3fa, 1), (0x3fd, 0x42f, 1), (0x460, 0x480, 2), (0x48a, 0x4c0, 2),
    (0x4c1, 0x4cd, 2), (0x4d0, 0x52e, 2), (0x531, 0x556, 1), (0x10a0, 0x10c5, 1), (0x10c7, 0x10c7, 1),
    (0x10cd, 0x10cd, 1), (0x13a0, 0x13f5, 1), (0x1c89, 0x1c89, 1), (0x1c90, 0x1cba, 1), (0x1cbd, 0x1cbf, 1),
    (0x1e00, 0x1e94, 2), (0x1e9e, 0x1efe, 2), (0x1f08, 0x1f0f, 1), (0x1f18, 0x1f1d, 1), (0x1f28, 0x1f2f, 1),
    (0x1f38, 0x1f3f, 1), (0x1f48, 0x1f4d, 1), (0x1f59, 0x1f5f, 2), (0x1f68, 0x1f6f, 1), (0x1f88, 0x1f8f, 1),
    (0x1f98, 0x1f9f, 1), (0x1fa8, 0x1faf, 1), (0x1fb8, 0x1fbc, 1), (0x1fc8, 0x1fcc, 1), (0x1fd8, 0x1fdb, 1),
    (0x1fe8, 0x1fec, 1), (0x1ff8, 0x1ffc, 1), (0x2126, 0x2126, 1), (0x212a, 0x212b, 1), (0x2132, 0x2132, 1),
    (0x2160, 0x216f, 1), (0x2183, 0x2183, 1), (0x24b6, 0x24cf, 1), (0x2c00, 0x2c2f, 1), (0x2c60, 0x2c62, 2),
    (0x2c63, 0x2c64, 1), (0x2c67, 0x2c6d, 2), (0x2c6e, 0x2c70, 1), (0x2c72, 0x2c72, 1), (0x2c75, 0x2c75, 1),
    (0x2c7e, 0x2c80, 1), (0x2c82, 0x2ce2, 2), (0x2ceb, 0x2ced, 2), (0x2cf2, 0x2cf2, 1), (0xa640, 0xa66c, 2),
    (0xa680, 0xa69a, 2), (0xa722, 0xa72e, 2), (0xa732, 0xa76e, 2), (0xa779, 0xa77d, 2), (0xa77e, 0xa786, 2),
    (0xa78b, 0xa78d, 2), (0xa790, 0xa792, 2), (0xa796, 0xa7aa, 2), (0xa7ab, 0xa7ae, 1), (0xa7b0, 0xa7b4, 1),
    (0xa7b6, 0xa7c4, 2), (0xa7c5, 0xa7c7, 1), (0xa7c9, 0xa7cb, 2), (0xa7cc, 0xa7cc, 1), (0xa7d0, 0xa7d0, 1),
    (0xa7d6, 0xa7dc, 2), (0xa7f5, 0xa7f5, 1), (0xff21, 0xff3a, 1), (0x10400, 0x10427, 1),
    (0x104b0, 0x104d3, 1), (0x10570, 0x1057a, 1), (0x1057c, 0x1058a, 1), (0x1058c, 0x10592, 1),
    (0x10594, 0x10595, 1), (0x10c80, 0x10cb2, 1), (0x10d50, 0x10d65, 1), (0x118a0, 0x118bf, 1),
    (0x16e40, 0x16e5f, 1), (0x1e900, 0x1e921, 1)]

/-- Whether lower-casing changes a character. -/
def changesInLowerCase (char : Char) : Bool :=
  notLowerRuns.any fun run =>
    run.1 ≤ char.toNat && char.toNat ≤ run.2.1 && (char.toNat - run.1) % run.2.2 == 0

/-- Whether a text is its own lower-case form. -/
def isLowerCase (text : List Char) : Bool := !text.any changesInLowerCase

end Microbench.Text
