import Bazaar.Failure.Class
import Bazaar.Text.Ascii
import Bazaar.Text.Charset.Dos
import Bazaar.Text.Charset.Ebcdic
import Bazaar.Text.Charset.Hangul
import Bazaar.Text.Charset.Iso
import Bazaar.Text.Charset.Kanji
import Bazaar.Text.Charset.Mac
import Bazaar.Text.Charset.Shifted
import Bazaar.Text.Charset.Simplified
import Bazaar.Text.Charset.Traditional
import Bazaar.Text.Charset.Windows
import Bazaar.Text.Codec
import Bazaar.Text.Line
import Bazaar.Text.Punycode

/-!
# Charsets

How bytes become text, by the name of a charset.  Reading is lenient: what is no character becomes
a replacement character.  A text of wide units that does not show the order of its bytes cannot be
read, nor one whose digits for other characters are not ASCII; neither can a text by the name of a
way of writing that is no charset.
-/

namespace Bazaar.Text

/-- How bytes become text. -/
inductive Charset where
  | utf8
  | markedUtf8
  | ascii
  | latin
  | utf16 (order : Option ByteOrder)
  | utf32 (order : Option ByteOrder)
  | shifted
  | punycode
  | table (t : Charset.Table)
  | pairs (t : Charset.PairTable)
  | unreadable (refusal : Refusal)

namespace Charset

/-! ## Names -/

/-- The charsets without a table, each with its own name and other names. -/
def plain : List (Charset × String × List String) :=
  [(.utf8, "utf_8", ["u8", "utf", "utf8", "utf8_ucs2", "utf8_ucs4", "cp65001"]),
   (.markedUtf8, "utf_8_sig", []),
   (.ascii, "ascii",
    ["646", "ansi_x3.4_1968", "ansi_x3_4_1968", "ansi_x3.4_1986", "cp367", "csascii", "ibm367",
     "iso646_us", "iso_646.irv_1991", "iso_ir_6", "us", "us_ascii"]),
   (.latin, "charmap", []),
   (.latin, "latin_1",
    ["8859", "cp819", "csisolatin1", "ibm819", "iso8859", "iso8859_1", "iso_8859_1",
     "iso_8859_1_1987", "iso_ir_100", "l1", "latin", "latin1"]),
   (.utf16 none, "utf_16", ["u16", "utf16"]),
   (.utf16 (some .little), "utf_16_le", ["unicodelittleunmarked", "utf_16le"]),
   (.utf16 (some .big), "utf_16_be", ["unicodebigunmarked", "utf_16be"]),
   (.utf32 none, "utf_32", ["u32", "utf32"]),
   (.utf32 (some .little), "utf_32_le", ["utf_32le"]),
   (.utf32 (some .big), "utf_32_be", ["utf_32be"]),
   (.shifted, "utf_7", ["u7", "utf7", "unicode_1_1_utf_7"]),
   (.punycode, "punycode", [])]

/-- Refused without a word, as it has no lenient reading. -/
def strictOnly : Charset :=
  .unreadable ⟨.assertion, ""⟩

/-- The known names of ways of writing that no text can be read by. -/
def foreign : List (Charset × String × List String) :=
  [(strictOnly, "base64_codec", ["base64", "base_64"]),
   (strictOnly, "bz2_codec", ["bz2"]),
   (strictOnly, "hex_codec", ["hex"]),
   (strictOnly, "quopri_codec", ["quopri", "quoted_printable", "quotedprintable"]),
   (strictOnly, "uu_codec", ["uu"]),
   (strictOnly, "zlib_codec", ["zip", "zlib"]),
   (.unreadable ⟨.type,
      "descriptor 'translate' for 'str' objects doesn't apply to a 'bytes' object"⟩,
    "rot_13", ["rot13"]),
   (.unreadable ⟨.unicode, "Unsupported error handling replace"⟩, "idna", []),
   (.unreadable ⟨.unicode, "undefined encoding"⟩, "undefined", [])]

/-- All charsets with their names. -/
def all : List (Charset × String × List String) :=
  plain ++ foreign ++
    ((isoTables ++ windowsTables ++ dosTables ++ macTables ++ ebcdicTables).map fun t =>
      (.table t, t.name, t.otherNames)) ++
    (kanjiTables ++ simplifiedTables ++ traditionalTables ++ hangulTables).map fun t =>
      (.pairs t, t.name, t.otherNames)

/-- Whether a character belongs to a name: ASCII letters, digits and the dot. -/
def isNameChar (c : Char) : Bool :=
  c.isAlphanum || c == '.'

/-- A name in lower case, with one underscore for all that stands between its words. -/
def usualName (cs : List Char) : String :=
  let marked := cs.map fun c => if isNameChar c then c.toLower else '_'
  String.ofList (Text.joinWith ['_'] ((Text.splitAt '_' marked).filter (!·.isEmpty)))

/-- The charset of a name.  A dot in one of the other names may stand for an underscore. -/
def ofName? (s : String) : Option Charset :=
  let name := usualName s.toList
  let dotless := String.ofList (name.toList.map fun c => if c == '.' then '_' else c)
  ((all.find? fun (_, _, others) => others.contains name || others.contains dotless) <|>
    (all.find? fun (_, own, _) => own == name)).map (·.1)

/-! ## Reading -/

/-- The refusal of a text of wide units that does not show the order of its bytes. -/
def unmarked (width : String) : Refusal :=
  ⟨.unicode, "UTF-" ++ width ++ " stream does not start with BOM"⟩

/-- The text of digits for other characters behind their last hyphen; the digits have to be
ASCII. -/
def ofPunycode (bytes : List UInt8) : Except Refusal (List Char) :=
  let hyphen : UInt8 := 0x2D
  let digits := (bytes.reverse.takeWhile (· != hyphen)).reverse
  match digits.find? (0x80 ≤ ·.toNat) with
  | some byte =>
    .error ⟨.undecodable, "'ascii' codec can't decode byte 0x" ++
      String.ofList (paddedHex 2 byte.toNat) ++ " in position " ++
      toString (digits.takeWhile (·.toNat < 0x80)).length ++ ": " ++ unfit⟩
  | none =>
    let basic := (bytes.take (bytes.length - digits.length - 1)).map fun b =>
      if b.toNat < 0x80 then Char.ofNat b.toNat else replacementChar
    .ok (Punycode.lenient basic (digits.map fun b => Char.ofNat b.toNat))

/-- The text of some bytes. -/
def decode (charset : Charset) (bytes : List UInt8) : Except Refusal (List Char) :=
  match charset with
  | .utf8 => .ok (lenientUtf8 bytes)
  | .markedUtf8 => .ok (lenientMarkedUtf8 bytes)
  | .ascii =>
    .ok (bytes.map fun b => if b.toNat < 0x80 then Char.ofNat b.toNat else replacementChar)
  | .latin => .ok (bytes.map fun b => Char.ofNat b.toNat)
  | .utf16 (some order) => .ok (lenientUtf16 order bytes)
  | .utf16 none =>
    match markedUtf16? bytes with
    | some (order, rest) => .ok (lenientUtf16 order rest)
    | none => if bytes.length < 2 then .ok (lenientUtf16 .little bytes) else .error (unmarked "16")
  | .utf32 (some order) => .ok (lenientUtf32 order bytes)
  | .utf32 none =>
    match markedUtf32? bytes with
    | some (order, rest) => .ok (lenientUtf32 order rest)
    | none => if bytes.length < 4 then .ok (lenientUtf32 .little bytes) else .error (unmarked "32")
  | .shifted => .ok (Shifted.outside bytes)
  | .punycode => ofPunycode bytes
  | .table t => .ok (t.decode bytes)
  | .pairs t => .ok (t.decode bytes)
  | .unreadable refusal => .error refusal

/-- A charset as a codec.  Strict reading finds nothing to replace. -/
def codec (charset : Charset) : Codec where
  strict bytes :=
    match charset.decode bytes with
    | .ok cs => if cs.contains replacementChar then none else some cs
    | .error _ => none
  lenient := charset.decode

/-- The codec of a name, which must not have a null character. -/
def codec? (name : String) : Except Refusal (Option Codec) :=
  if name.toList.contains '\x00' then .error ⟨.value, "embedded null character"⟩
  else .ok ((ofName? name).map codec)

end Charset

end Bazaar.Text
