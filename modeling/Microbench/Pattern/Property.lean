import Microbench.Pattern.Category
import Microbench.Pattern.CharSet
import Microbench.Pattern.Folding
import Microbench.Pattern.Script
import Microbench.Text.Blank

/-!
# Properties of characters

The sets of characters that patterns can name: classes of a letter, classes of ASCII characters,
and properties by name.
-/

namespace Microbench.CharSet

/-- Marks that are not alphabetic. -/
def plainMarks : CharSet :=
  ⟨[(0x300, 0x344), (0x346, 0x36f), (0x483, 0x489), (0x591, 0x5af), (0x658, 0x658),
    (0x6df, 0x6e0), (0x6ea, 0x6ec), (0x740, 0x74a), (0x7eb, 0x7f3), (0x7fd, 0x7fd),
    (0x818, 0x819), (0x82d, 0x82d), (0x859, 0x85b), (0x898, 0x89f), (0x8ca, 0x8d3),
    (0x8e0, 0x8e1), (0x8ea, 0x8ef), (0x93c, 0x93c), (0x94d, 0x94d), (0x951, 0x954),
    (0x9bc, 0x9bc), (0x9cd, 0x9cd), (0x9fe, 0x9fe), (0xa3c, 0xa3c), (0xa4d, 0xa4d),
    (0xabc, 0xabc), (0xacd, 0xacd), (0xafd, 0xaff), (0xb3c, 0xb3c), (0xb4d, 0xb4d),
    (0xb55, 0xb55), (0xbcd, 0xbcd), (0xc3c, 0xc3c), (0xc4d, 0xc4d), (0xcbc, 0xcbc),
    (0xccd, 0xccd), (0xd3b, 0xd3c), (0xd4d, 0xd4d), (0xdca, 0xdca), (0xe47, 0xe4c),
    (0xe4e, 0xe4e), (0xeba, 0xeba), (0xec8, 0xecc), (0xece, 0xece), (0xf18, 0xf19),
    (0xf35, 0xf35), (0xf37, 0xf37), (0xf39, 0xf39), (0xf3e, 0xf3f), (0xf84, 0xf84),
    (0xf86, 0xf87), (0xfc6, 0xfc6), (0x1037, 0x1037), (0x1039, 0x103a), (0x135d, 0x135f),
    (0x1714, 0x1715), (0x1734, 0x1734), (0x17b4, 0x17b5), (0x17c9, 0x17d3), (0x17dd, 0x17dd),
    (0x180b, 0x180d), (0x180f, 0x180f), (0x1939, 0x193b), (0x1a60, 0x1a60), (0x1a75, 0x1a7c),
    (0x1a7f, 0x1a7f), (0x1ab0, 0x1abe), (0x1ac1, 0x1acb), (0x1b34, 0x1b34), (0x1b44, 0x1b44),
    (0x1b6b, 0x1b73), (0x1baa, 0x1bab), (0x1be6, 0x1be6), (0x1bf2, 0x1bf3), (0x1c37, 0x1c37),
    (0x1cd0, 0x1cd2), (0x1cd4, 0x1ce8), (0x1ced, 0x1ced), (0x1cf4, 0x1cf4), (0x1cf7, 0x1cf9),
    (0x1dc0, 0x1de6), (0x1df5, 0x1dff), (0x20d0, 0x20f0), (0x2cef, 0x2cf1), (0x2d7f, 0x2d7f),
    (0x302a, 0x302f), (0x3099, 0x309a), (0xa66f, 0xa672), (0xa67c, 0xa67d), (0xa6f0, 0xa6f1),
    (0xa806, 0xa806), (0xa82c, 0xa82c), (0xa8c4, 0xa8c4), (0xa8e0, 0xa8f1), (0xa92b, 0xa92d),
    (0xa953, 0xa953), (0xa9b3, 0xa9b3), (0xa9c0, 0xa9c0), (0xaabf, 0xaabf), (0xaac1, 0xaac1),
    (0xaaf6, 0xaaf6), (0xabec, 0xabed), (0xfe00, 0xfe0f), (0xfe20, 0xfe2f), (0x101fd, 0x101fd),
    (0x102e0, 0x102e0), (0x10a38, 0x10a3a), (0x10a3f, 0x10a3f), (0x10ae5, 0x10ae6),
    (0x10efd, 0x10eff), (0x10f46, 0x10f50), (0x10f82, 0x10f85), (0x11046, 0x11046),
    (0x11070, 0x11070), (0x1107f, 0x1107f), (0x110b9, 0x110ba), (0x11133, 0x11134),
    (0x11173, 0x11173), (0x111c0, 0x111c0), (0x111c9, 0x111cc), (0x11235, 0x11236),
    (0x112e9, 0x112ea), (0x1133b, 0x1133c), (0x1134d, 0x1134d), (0x11366, 0x1136c),
    (0x11370, 0x11374), (0x11442, 0x11442), (0x11446, 0x11446), (0x1145e, 0x1145e),
    (0x114c2, 0x114c3), (0x115bf, 0x115c0), (0x1163f, 0x1163f), (0x116b6, 0x116b7),
    (0x1172b, 0x1172b), (0x11839, 0x1183a), (0x1193d, 0x1193e), (0x11943, 0x11943),
    (0x119e0, 0x119e0), (0x11a33, 0x11a34), (0x11a47, 0x11a47), (0x11a98, 0x11a99),
    (0x11c3f, 0x11c3f), (0x11d42, 0x11d42), (0x11d44, 0x11d45), (0x11d97, 0x11d97),
    (0x11f41, 0x11f42), (0x13440, 0x13440), (0x13447, 0x13455), (0x16af0, 0x16af4),
    (0x16b30, 0x16b36), (0x16fe4, 0x16fe4), (0x1bc9d, 0x1bc9d), (0x1cf00, 0x1cf2d),
    (0x1cf30, 0x1cf46), (0x1d165, 0x1d169), (0x1d16d, 0x1d172), (0x1d17b, 0x1d182),
    (0x1d185, 0x1d18b), (0x1d1aa, 0x1d1ad), (0x1d242, 0x1d244), (0x1da00, 0x1da36),
    (0x1da3b, 0x1da6c), (0x1da75, 0x1da75), (0x1da84, 0x1da84), (0x1da9b, 0x1da9f),
    (0x1daa1, 0x1daaf), (0x1e130, 0x1e136), (0x1e2ae, 0x1e2ae), (0x1e2ec, 0x1e2ef),
    (0x1e4ec, 0x1e4ef), (0x1e8d0, 0x1e8d6), (0x1e944, 0x1e946), (0x1e948, 0x1e94a),
    (0xe0100, 0xe01ef)]⟩

/-- Small letters by use though not by category. -/
def otherLowercase : CharSet :=
  ⟨[(0xaa, 0xaa), (0xba, 0xba), (0x2b0, 0x2b8), (0x2c0, 0x2c1), (0x2e0, 0x2e4), (0x345, 0x345),
    (0x37a, 0x37a), (0x10fc, 0x10fc), (0x1d2c, 0x1d6a), (0x1d78, 0x1d78), (0x1d9b, 0x1dbf),
    (0x2071, 0x2071), (0x207f, 0x207f), (0x2090, 0x209c), (0x2170, 0x217f), (0x24d0, 0x24e9),
    (0x2c7c, 0x2c7d), (0xa69c, 0xa69d), (0xa770, 0xa770), (0xa7f2, 0xa7f4), (0xa7f8, 0xa7f9),
    (0xab5c, 0xab5f), (0xab69, 0xab69), (0x10780, 0x10780), (0x10783, 0x10785),
    (0x10787, 0x107b0), (0x107b2, 0x107ba), (0x1e030, 0x1e06d)]⟩

/-- Capitals by use though not by category. -/
def otherUppercase : CharSet :=
  ⟨[(0x2160, 0x216f), (0x24b6, 0x24cf), (0x1f130, 0x1f149), (0x1f150, 0x1f169),
    (0x1f170, 0x1f189)]⟩

/-- Letters in circles and squares, which are symbols by category. -/
def enclosedLetters : CharSet :=
  ⟨[(0x24b6, 0x24e9), (0x1f130, 0x1f149), (0x1f150, 0x1f169), (0x1f170, 0x1f189)]⟩

/-- The characters of some categories. -/
def ofCategories (categories : List String) : CharSet := ⟨Category.ranges categories⟩

def alphabetic : CharSet :=
  ((ofCategories Category.letters).union enclosedLetters).union
    ((ofCategories Category.marks).diff plainMarks)

/-- Small letters. -/
def lowercase : CharSet := (ofCategories ["Ll"]).union otherLowercase

def uppercase : CharSet := (ofCategories ["Lu"]).union otherUppercase

/-- Characters that join others, or keep them apart, without being seen. -/
def joiners : CharSet := ⟨[(0x200c, 0x200d)]⟩

def blank : CharSet := ⟨Text.whiteSpaceRanges⟩

def digit : CharSet := ofCategories ["Nd"]

def word : CharSet :=
  ((ofCategories (Category.letters ++ Category.marks ++ ["Nd", "Pc"])).union
    (enclosedLetters.union joiners)).compact

/-- Every character. -/
def all : CharSet := ⟨[(0, lastCode)]⟩

def ascii : CharSet := ⟨[(0, 0x7f)]⟩

def asciiDigit : CharSet := .between '0' '9'

def asciiLetter : CharSet := ⟨[(0x41, 0x5a), (0x61, 0x7a)]⟩

def asciiWord : CharSet := (asciiDigit.union asciiLetter).union (.single '_')

/-- ASCII white space. -/
def asciiBlank : CharSet := ⟨[(0x09, 0x0d), (0x20, 0x20)]⟩

/-- The classes of ASCII characters by name. -/
def asciiClasses : List (String × CharSet) :=
  [("alnum", asciiDigit.union asciiLetter), ("alpha", asciiLetter), ("ascii", ascii),
    ("blank", .ofText "\t "), ("cntrl", ⟨[(0, 0x1f), (0x7f, 0x7f)]⟩), ("digit", asciiDigit),
    ("graph", ⟨[(0x21, 0x7e)]⟩), ("lower", .between 'a' 'z'), ("print", ⟨[(0x20, 0x7e)]⟩),
    ("punct", ⟨[(0x21, 0x2f), (0x3a, 0x40), (0x5b, 0x60), (0x7b, 0x7e)]⟩),
    ("space", asciiBlank), ("upper", .between 'A' 'Z'), ("word", asciiWord),
    ("xdigit", ⟨[(0x30, 0x39), (0x41, 0x46), (0x61, 0x66)]⟩)]

/-- The class of ASCII characters of this name. -/
def asciiClass? (name : String) : Option CharSet := asciiClasses.lookup name

/-- Properties that a character has or has not, by their names. -/
def properties : List (List String × CharSet) :=
  [(["alphabetic", "alpha"], alphabetic), (["lowercase", "lower"], lowercase),
    (["uppercase", "upper"], uppercase),
    (["cased"], (lowercase.union uppercase).union (ofCategories ["Lt"])),
    (["whitespace", "wspace", "space"], blank), (["joincontrol", "joinc"], joiners),
    (["asciihexdigit", "ahex"], ⟨[(0x30, 0x39), (0x41, 0x46), (0x61, 0x66)]⟩),
    (["hexdigit", "hex"],
      ⟨[(0x30, 0x39), (0x41, 0x46), (0x61, 0x66), (0xff10, 0xff19), (0xff21, 0xff26),
        (0xff41, 0xff46)]⟩)]

/-- A name of a property, without what does not matter in it: capitals, blanks, dashes,
underscores, characters beyond ASCII and a leading "is". -/
def plainName (name : List Char) : String :=
  let rest := match name with
    | first :: second :: rest =>
      if first.toLower = 'i' && second.toLower = 's' then rest else name
    | _ => name
  let kept := (rest.filter fun char => char.toNat < 0x80 && !" _-".contains char).map Char.toLower
  String.ofList (if kept = ['c'] && rest.length < name.length then "isc".toList else kept)

/-- The characters of a general category, or of the sets that go by a category's side. -/
def category? (name : String) : Option CharSet :=
  match name with
  | "any" => some all
  | "ascii" => some ascii
  | "assigned" => some (ofCategories ["Cn"]).complement
  | _ => (Category.named? name).map CharSet.mk

/-- The characters with the property of a plain name: a property proper, a general category or a
script. -/
def named? (name : String) : Option CharSet :=
  ((properties.find? fun entry => entry.1.contains name).map (·.2)).or
    ((category? name).or ((Script.named? name).map CharSet.mk))

/-- The characters for which a property has a value, both by plain names. -/
def valued? (property value : String) : Option CharSet :=
  if ["gc", "generalcategory"].contains property then category? value
  else if ["sc", "script", "scx", "scriptextensions"].contains property then
    (Script.named? value).map CharSet.mk
  else none

/-- The characters of a set and those that differ from them only in case. -/
def folded (set : CharSet) : CharSet :=
  let reached := Folding.orbits.filter fun orbit => orbit.any set.hasCode
  if reached.isEmpty then set
  else (set.union ⟨reached.flatten.map fun code => (code, code)⟩).compact

/-- The characters of a set and the ASCII letters that differ from them only in case. -/
def asciiFolded (set : CharSet) : CharSet :=
  let twins := (List.range 26).filterMap fun index =>
    let (capital, small) := (0x41 + index, 0x61 + index)
    if set.hasCode capital || set.hasCode small then some [(capital, capital), (small, small)]
    else none
  set.union ⟨twins.flatten⟩

end Microbench.CharSet
