import CardPayments.Text.Basic
import CardPayments.Url.Punycode

/-!
# Domain names

A domain name is compared in one spelling: small letters, one full stop, letters with their accents
joined, and labels beyond ASCII in their ASCII form. The tables cover the Latin, Greek, Cyrillic,
Armenian and Georgian letters and the full width forms of ASCII.
-/

namespace CardPayments

namespace Domain

/-- Runs of letters with a small or plain form: the first, the last, the step from one to the next,
and the form of the first. -/
def foldingRuns : List (Nat × Nat × Nat × Nat) :=
  [(0xC0, 0xD6, 1, 0xE0), (0xD8, 0xDE, 1, 0xF8), (0x100, 0x12E, 2, 0x101), (0x134, 0x136, 2, 0x135),
   (0x139, 0x13D, 2, 0x13A), (0x141, 0x147, 2, 0x142), (0x14A, 0x176, 2, 0x14B),
   (0x178, 0x178, 1, 0xFF), (0x179, 0x17D, 2, 0x17A), (0x17F, 0x17F, 1, 0x73),
   (0x181, 0x181, 1, 0x253), (0x182, 0x184, 2, 0x183), (0x186, 0x186, 1, 0x254),
   (0x187, 0x187, 1, 0x188), (0x189, 0x18A, 1, 0x256), (0x18B, 0x18B, 1, 0x18C),
   (0x18E, 0x18E, 1, 0x1DD), (0x18F, 0x18F, 1, 0x259), (0x190, 0x190, 1, 0x25B),
   (0x191, 0x191, 1, 0x192), (0x193, 0x193, 1, 0x260), (0x194, 0x194, 1, 0x263),
   (0x196, 0x196, 1, 0x269), (0x197, 0x197, 1, 0x268), (0x198, 0x198, 1, 0x199),
   (0x19C, 0x19C, 1, 0x26F), (0x19D, 0x19D, 1, 0x272), (0x19F, 0x19F, 1, 0x275),
   (0x1A0, 0x1A4, 2, 0x1A1), (0x1A6, 0x1A6, 1, 0x280), (0x1A7, 0x1A7, 1, 0x1A8),
   (0x1A9, 0x1A9, 1, 0x283), (0x1AC, 0x1AC, 1, 0x1AD), (0x1AE, 0x1AE, 1, 0x288),
   (0x1AF, 0x1AF, 1, 0x1B0), (0x1B1, 0x1B2, 1, 0x28A), (0x1B3, 0x1B5, 2, 0x1B4),
   (0x1B7, 0x1B7, 1, 0x292), (0x1B8, 0x1B8, 1, 0x1B9), (0x1BC, 0x1BC, 1, 0x1BD),
   (0x1CD, 0x1DB, 2, 0x1CE), (0x1DE, 0x1EE, 2, 0x1DF), (0x1F4, 0x1F4, 1, 0x1F5),
   (0x1F6, 0x1F6, 1, 0x195), (0x1F7, 0x1F7, 1, 0x1BF), (0x1F8, 0x21E, 2, 0x1F9),
   (0x220, 0x220, 1, 0x19E), (0x222, 0x232, 2, 0x223), (0x23A, 0x23A, 1, 0x2C65),
   (0x23B, 0x23B, 1, 0x23C), (0x23D, 0x23D, 1, 0x19A), (0x23E, 0x23E, 1, 0x2C66),
   (0x241, 0x241, 1, 0x242), (0x243, 0x243, 1, 0x180), (0x244, 0x244, 1, 0x289),
   (0x245, 0x245, 1, 0x28C), (0x246, 0x24E, 2, 0x247), (0x370, 0x372, 2, 0x371),
   (0x374, 0x374, 1, 0x2B9), (0x376, 0x376, 1, 0x377), (0x37E, 0x37E, 1, 0x3B),
   (0x37F, 0x37F, 1, 0x3F3), (0x386, 0x386, 1, 0x3AC), (0x387, 0x387, 1, 0xB7),
   (0x388, 0x38A, 1, 0x3AD), (0x38C, 0x38C, 1, 0x3CC), (0x38E, 0x38F, 1, 0x3CD),
   (0x391, 0x3A1, 1, 0x3B1), (0x3A3, 0x3AB, 1, 0x3C3), (0x3CF, 0x3CF, 1, 0x3D7),
   (0x3D0, 0x3D0, 1, 0x3B2), (0x3D1, 0x3D1, 1, 0x3B8), (0x3D2, 0x3D2, 1, 0x3C5),
   (0x3D3, 0x3D3, 1, 0x3CD), (0x3D4, 0x3D4, 1, 0x3CB), (0x3D5, 0x3D5, 1, 0x3C6),
   (0x3D6, 0x3D6, 1, 0x3C0), (0x3D8, 0x3EE, 2, 0x3D9), (0x3F0, 0x3F0, 1, 0x3BA),
   (0x3F1, 0x3F1, 1, 0x3C1), (0x3F2, 0x3F2, 1, 0x3C3), (0x3F4, 0x3F4, 1, 0x3B8),
   (0x3F5, 0x3F5, 1, 0x3B5), (0x3F7, 0x3F7, 1, 0x3F8), (0x3F9, 0x3F9, 1, 0x3C3),
   (0x3FA, 0x3FA, 1, 0x3FB), (0x3FD, 0x3FF, 1, 0x37B), (0x400, 0x40F, 1, 0x450),
   (0x410, 0x42F, 1, 0x430), (0x460, 0x480, 2, 0x461), (0x48A, 0x4BE, 2, 0x48B),
   (0x4C0, 0x4C0, 1, 0x4CF), (0x4C1, 0x4CD, 2, 0x4C2), (0x4D0, 0x52E, 2, 0x4D1),
   (0x531, 0x556, 1, 0x561), (0x10A0, 0x10C5, 1, 0x2D00), (0x1E00, 0x1E94, 2, 0x1E01),
   (0x1E9B, 0x1E9B, 1, 0x1E61), (0x1EA0, 0x1EFE, 2, 0x1EA1), (0x1F08, 0x1F0F, 1, 0x1F00),
   (0x1F18, 0x1F1D, 1, 0x1F10), (0x1F28, 0x1F2F, 1, 0x1F20), (0x1F38, 0x1F3F, 1, 0x1F30),
   (0x1F48, 0x1F4D, 1, 0x1F40), (0x1F59, 0x1F5F, 2, 0x1F51), (0x1F68, 0x1F6F, 1, 0x1F60),
   (0x1F71, 0x1F71, 1, 0x3AC), (0x1F73, 0x1F73, 1, 0x3AD), (0x1F75, 0x1F75, 1, 0x3AE),
   (0x1F77, 0x1F77, 1, 0x3AF), (0x1F79, 0x1F79, 1, 0x3CC), (0x1F7B, 0x1F7B, 1, 0x3CD),
   (0x1F7D, 0x1F7D, 1, 0x3CE), (0x1FB8, 0x1FB9, 1, 0x1FB0), (0x1FBA, 0x1FBA, 1, 0x1F70),
   (0x1FBB, 0x1FBB, 1, 0x3AC), (0x1FBE, 0x1FBE, 1, 0x3B9), (0x1FC8, 0x1FC8, 1, 0x1F72),
   (0x1FC9, 0x1FC9, 1, 0x3AD), (0x1FCA, 0x1FCA, 1, 0x1F74), (0x1FCB, 0x1FCB, 1, 0x3AE),
   (0x1FD3, 0x1FD3, 1, 0x390), (0x1FD8, 0x1FD9, 1, 0x1FD0), (0x1FDA, 0x1FDA, 1, 0x1F76),
   (0x1FDB, 0x1FDB, 1, 0x3AF), (0x1FE3, 0x1FE3, 1, 0x3B0), (0x1FE8, 0x1FE9, 1, 0x1FE0),
   (0x1FEA, 0x1FEA, 1, 0x1F7A), (0x1FEB, 0x1FEB, 1, 0x3CD), (0x1FEC, 0x1FEC, 1, 0x1FE5),
   (0x1FEF, 0x1FEF, 1, 0x60), (0x1FF8, 0x1FF8, 1, 0x1F78), (0x1FF9, 0x1FF9, 1, 0x3CC),
   (0x1FFA, 0x1FFA, 1, 0x1F7C), (0x1FFB, 0x1FFB, 1, 0x3CE), (0x2160, 0x2160, 1, 0x69),
   (0x2164, 0x2164, 1, 0x76), (0x2169, 0x2169, 1, 0x78), (0x216C, 0x216C, 1, 0x6C),
   (0x216D, 0x216E, 1, 0x63), (0x216F, 0x216F, 1, 0x6D), (0x2170, 0x2170, 1, 0x69),
   (0x2174, 0x2174, 1, 0x76), (0x2179, 0x2179, 1, 0x78), (0x217C, 0x217C, 1, 0x6C),
   (0x217D, 0x217E, 1, 0x63), (0x217F, 0x217F, 1, 0x6D), (0x24B6, 0x24CF, 1, 0x61),
   (0x24D0, 0x24E9, 1, 0x61), (0xFF01, 0xFF20, 1, 0x21), (0xFF21, 0xFF3A, 1, 0x61),
   (0xFF3B, 0xFF5E, 1, 0x5B)]

/-- Accents with the letters that they join and the letters that this makes. -/
def compositions : List (Char × String × String) :=
  [('\u0300', "aeiouünеиēōwâăêôơưy", "àèìòùǜǹѐѝḕṑẁầằềồờừỳ"),
   ('\u0301', "aeiouyclnrszügåæøϊαεηιϋουωгкçēïkmõōpũwâăêôơư",
    "áéíóúýćĺńŕśźǘǵǻǽǿΐάέήίΰόύώѓќḉḗḯḱḿṍṓṕṹẃấắếốớứ"),
   ('\u0302', "aeioucghjswyzạẹọ", "âêîôûĉĝĥĵŝŵŷẑậệộ"),
   ('\u0303', "anoiuvâăeêôơưy", "ãñõĩũṽẫẵẽễỗỡữỹ"),
   ('\u0304', "aeiouüäȧæǫöõȯygḷṛ", "āēīōūǖǟǡǣǭȫȭȱȳḡḹṝ"),
   ('\u0306', "aegiouиуȩạ", "ăĕğĭŏŭйўḝặ"),
   ('\u0307', "cegzaobdfhmnprsśšṣtwxy", "ċėġżȧȯḃḋḟḣṁṅṗṙṡṥṧṩṫẇẋẏ"),
   ('\u0308', "aeiouyιυеіhõūwxt", "äëïöüÿϊϋёїḧṏṻẅẍẗ"),
   ('\u0309', "aâăeêioôơuưy", "ảẩẳẻểỉỏổởủửỷ"),
   ('\u030a', "auwy", "åůẘẙ"),
   ('\u030b', "ou", "őű"),
   ('\u030c', "cdelnrstzaiouügkʒjh", "čďěľňřšťžǎǐǒǔǚǧǩǯǰȟ"),
   ('\u030f', "aeioru", "ȁȅȉȍȑȕ"),
   ('\u0311', "aeioru", "ȃȇȋȏȓȗ"),
   ('\u031b', "ou", "ơư"),
   ('\u0323', "bdhklmnrstvwzaeioơuưy", "ḅḍḥḳḷṃṇṛṣṭṿẉẓạẹịọợụựỵ"),
   ('\u0324', "u", "ṳ"),
   ('\u0325', "a", "ḁ"),
   ('\u0326', "st", "șț"),
   ('\u0327', "cgklnrstedh", "çģķļņŗşţȩḑḩ"),
   ('\u0328', "aeiuo", "ąęįųǫ"),
   ('\u032d', "delntu", "ḓḙḽṋṱṷ"),
   ('\u032e', "h", "ḫ"),
   ('\u0330', "eiu", "ḛḭṵ"),
   ('\u0331', "bdklnrtzh", "ḇḏḵḻṉṟṯẕẖ")]

/-- Characters that a name is read without. -/
def isIgnored (c : Char) : Bool := c = '\u00ad' || c = '\u200b' || c = '\u2060' || c = '\ufeff'

def foldChar (c : Char) : Char :=
  let n := c.toNat
  if n < 0x80 then c.toLower
  else if n = 0x3002 ∨ n = 0xFF61 then '.'
  else
    let isIn : Nat × Nat × Nat × Nat → Bool := fun (first, last, step, _) =>
      first ≤ n && n ≤ last && (n - first) % step == 0
    match foldingRuns.find? isIn with
    | some (first, _, _, form) => Char.ofNat (form + (n - first))
    | none => c

def compose? (base accent : Char) : Option Char := do
  let (_, bases, letters) ← compositions.find? fun row => row.1 == accent
  let (_, letter) ← (bases.toList.zip letters.toList).find? fun pair => pair.1 == base
  some letter

/-- Joins every accent to the letter before it where that makes a letter; the last letter comes
first in `done`. -/
def composeInto (done : List Char) (c : Char) : List Char :=
  match done with
  | base :: rest =>
    match compose? base c with
    | some letter => letter :: rest
    | none => c :: done
  | [] => [c]

/-- The spelling in which names are compared. -/
def folded (name : List Char) : List Char :=
  (((name.filter fun c => !isIgnored c).map foldChar).foldl composeInto []).reverse

/-- Characters that no name has, whatever its script. -/
def isForbidden (c : Char) : Bool :=
  let n := c.toNat
  Text.isBlank c || n ≤ 0x20 || (0x7F ≤ n && n < 0xA0) || "%#/:<>?@[\\]^|".toList.contains c ||
    n = 0xFFFD || (0xE000 ≤ n && n ≤ 0xF8FF) || (0xFDD0 ≤ n && n ≤ 0xFDEF) || n % 0x10000 ≥ 0xFFFE

def asciiMark : List Char := "xn--".toList

def isAscii (s : List Char) : Bool := s.all fun c => c.toNat < 0x80

/-- The label in ASCII. One that claims to be in ASCII form already has to be the form of some label
beyond ASCII. -/
def labelToAscii? (label : List Char) : Option (List Char) :=
  if asciiMark.isPrefixOf label then do
    let decoded ← Punycode.decode? (label.drop 4)
    if isAscii label && !isAscii decoded && !decoded.any isForbidden && folded decoded == decoded &&
        Punycode.encode decoded == label.drop 4 then
      some label
    else none
  else if isAscii label then some label
  else some (asciiMark ++ Punycode.encode label)

/-- The parts between the given signs; there is always one more of them than of the signs. -/
def splitOn (sign : Char) : List Char → List (List Char)
  | [] => [[]]
  | c :: rest =>
    if c = sign then [] :: splitOn sign rest
    else
      match splitOn sign rest with
      | part :: parts => (c :: part) :: parts
      | [] => [[c]]

def toAscii? (name : List Char) : Option (List Char) := do
  let spelled := folded name
  if spelled.any isForbidden then none
  let labels ← (splitOn '.' spelled).mapM labelToAscii?
  some (['.'].intercalate labels)

end Domain

end CardPayments
