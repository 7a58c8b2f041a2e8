import Huntbook.Text.Word

/-!
# Printable characters

Which characters a quoted text shows as they are. Control characters, unassigned code points,
separators other than the space, and private ones are written as escapes.
-/

namespace Huntbook.Text

/-! ## Halves of pairs

Characters beyond the first plane are written in some formats as a pair of units. A text may hold
half of a pair alone, which is no character: the last characters of the last plane, which nothing
else is kept for, stand for the halves. -/

def isHighHalf (n : Nat) : Bool := 0xD800 ≤ n && n ≤ 0xDBFF

def isLowHalf (n : Nat) : Bool := 0xDC00 ≤ n && n ≤ 0xDFFF

/-- The character that stands for half of a pair. -/
def ofHalf (n : Nat) : Char := Char.ofNat (0x10F800 + (n - 0xD800))

/-- The half that a character stands for, if it is one that is kept for them. -/
def half? (c : Char) : Option Nat :=
  if c.toNat ≥ 0x10F800 then some (0xD800 + (c.toNat - 0x10F800)) else none

def ofUnit (n : Nat) : Char := if isHighHalf n || isLowHalf n then ofHalf n else Char.ofNat n

def unitOf (c : Char) : Nat := (half? c).getD c.toNat

def holdsHalf (s : String) : Bool := s.toList.any fun c => (half? c).isSome

def unprintableRanges : List (Nat × Nat) :=
  rangesFrom 0 (unpack
    ("gRBbbMCGEHBBBUBpHBbMCbYCDBcDIbBEGRWBhKBbWCcHCdXOcHCbXCPBbCCBBLFbFJcWBgFBICCCWBHBBDECJCCCEI" ++
     "BECBFCZCDBGECCWBHBCBCBCCBBFECCDDBHEBBHRKDBJBDBWBHBCBFCKBDBDCBPECMHHBDBICCCWBHBCBFCJCCCDHDE" ++
     "CBFCSKCBGDDBEDCBBBCDCDDDMEFDDBECBGBOVFNBDBXBQCJBDBEHCBDCBCECKHWBDBXBKBFCJBDBEHCGCBECKBCNNB" ++
     "DBbZBDBGEQCbABDBSDYBJBBCHDBEGBBBIGKCDMcGEbDbLCBBBFBYBBBXCFBBBGCKCEbGcUBbKEbNBbKBPBNbLhQBBF" ++
     "BCoNBECHBBBECbPBECbHBECHBBBECPBcFBECcPCbGDbAGdICGCyQBbCDdLHWJYJUMNBDBCMdQCKGKGOBLGdLHbRFcS" ++
     "KbFBMEMEBDbQCFLbSEbAGLDcKCcNBbDCLGKGOCbFbXcZDbVBeMIcIDPDcIHbRCLIbRFuOCGCbMCGCIBBBBBBBbFCcB" ++
     "BPBOCGBTCDBJRYIbVRCCbBBNDbHPbHPfKEzNZLVcrSCbGBnLFbTBBFBCcEHCOYJHBHBHBHBHBHBHBHBeWbIbABdLMi" ++
     "GbAMFcLBdICdZFbRBdQBdGMbVBbriRDcDJnKUhCIhVFCBBBFYcHDKGcEIcSIMGeMLbEDdABLEbHBcDJOCKCdZYbCKG" ++
     "CGCGJHBHBcIEeWCKGqnSMXEbXEdaUjmEoCCeCbMHMFFbABFBBBCBCBeVQrDCcCHBbGbQGbZBTBEEFBfFEhIDGCGCGC" ++
     "DDHBHNCCMBbABTBCBPCObIeTFDEbTDdKBNDBbVbUfAbDDbXPbCEbKJbEFbRFbEBbLEObQgCCKGbKEbKEbOIcALMBPB" ++
     "HBCBLBPBHBCcPlZJWKIYGBbQBJcRGCBBbSBCDBCXBcUIJbWTBCFbHDbBFBcMcEEUCbYBCFIBDBbDCDEKHJHcMbGbNE" ++
     "MJcCDbDCbBFbAHEMHdCcVcDbZNbZHbUIKlIbFBbQBDCCdAbOIbQWbAbMbCUXJdAEbKJcKBFNZHKGcBBSIbNJdSBULS" ++
     "BbScNHBBBEBPBLGcHFKGEBICCCWBHBCBFBKCCCDCBGBFHCHDFfJdOBFbEcUIKgKcCCbMbIcRLKGNTcGGKcCbBCPEXh" ++
     "DcIdWdFMICBCIBCBbEBCCMJKcSICbUCLbBcUIdFNcVkDJBbTBOKbDDbGCWBOcVHBCBbSDBBCBJIKGGBCBbLBCBGHKl" ++
     "YZhBBPbYNbjNdYeHBFLhOdxKdVNbpFfzTwLmuBvXHbFBKEdDBKGbECGKcSKKBHBVFTbaMdNdXcXEcFHRcMFLCOjcAI" ++
     "bvQbQJnfREBHBCBlFbTDREIpGdkUeDFNDJHKCEgyYbUCXJeMcIjMKbNCcWIeIVcSfYUMdJJZfFdHBcTBCCBCCCEBMB" ++
     "BBHBcNBECIBHBbCBEBFBBDHBnCClGCbbAPFBPbqMbFiRHBRCHBCBFiFbTDOCKECmIbFRcGFBbwAHBEBCBPBhPCQbPc" ++
     "YEKECbeFcQcYcJhMEBbBBCBBCBBKBEBBBBGBEBBBBBBDBCBBCBBBBBBBBBBCBBCEBHBEBEBBBKBRFDBFBRcACkKbSE" ++
     "dWMPCPBPBbLKgScEbDNbSEJHCOGfYblWFQDNDeMMdLHMEBPMEcEIKGbOIbECCdAnCMOCFDFDHJbDDLFGKKGIIHJfRB" ++
     "cDbLKbnQclfCbGgdTHiOCinQOlbLepJuWcfYhhZbotmRjGlecU"))

def isPrintable (c : Char) : Bool :=
  if c.toNat < 128 then 32 ≤ c.toNat && c.toNat < 127 else !inRanges unprintableRanges c

/-! ## Quoted texts

How a text is shown inside a larger value: between single quotes, or between double quotes when it
holds a single quote and no double one. -/

def hex (width n : Nat) : String :=
  let digits := Nat.toDigits 16 n
  String.ofList (List.replicate (width - digits.length) '0' ++ digits)

def quoteFor (s : String) : Char :=
  if s.toList.contains '\'' && !s.toList.contains '"' then '"' else '\''

def quoteChar (quote c : Char) : String :=
  if c == quote || c == '\\' then String.ofList ['\\', c]
  else if c == '\n' then "\\n"
  else if c == '\r' then "\\r"
  else if c == '\t' then "\\t"
  else if isPrintable c then c.toString
  else if c.toNat < 0x100 then "\\x" ++ hex 2 c.toNat
  else if unitOf c < 0x10000 then "\\u" ++ hex 4 (unitOf c)
  else "\\U" ++ hex 8 c.toNat

def quoted (s : String) : String :=
  let quote := quoteFor s
  quote.toString ++ String.join (s.toList.map (quoteChar quote)) ++ quote.toString

end Huntbook.Text

namespace Huntbook.Text.Bytes

/-! ## Bytes that are no text

Texts are kept as bytes in UTF-8. Where bytes are no text, this says which of them are to blame and
why. -/

inductive Reason
  | badStart | badContinuation | cutOff
  deriving DecidableEq

def Reason.message : Reason → String
  | .badStart => "invalid start byte"
  | .badContinuation => "invalid continuation byte"
  | .cutOff => "unexpected end of data"

/-- The first byte that cannot be decoded. -/
structure Flaw where
  byte : UInt8
  (position count : Nat)
  reason : Reason

def hexByte (b : UInt8) : String :=
  String.ofList [Nat.digitChar (b.toNat / 16), Nat.digitChar (b.toNat % 16)]

def Flaw.message (f : Flaw) : String :=
  let place := if f.count == 1 then s!"byte 0x{hexByte f.byte} in position {f.position}"
    else s!"bytes in position {f.position}-{f.position + f.count - 1}"
  s!"'utf-8' codec can't decode {place}: {f.reason.message}"

/-- The bytes that may come second after a first byte, and how many come in all. One byte by
    itself has no second; some bytes cannot be first. -/
def shape? (b : UInt8) : Option (Nat × UInt8 × UInt8) :=
  if b < 0x80 then some (1, 0x80, 0xBF)
  else if b < 0xC2 then none
  else if b < 0xE0 then some (2, 0x80, 0xBF)
  else if b < 0xF0 then
    some (3, if b == 0xE0 then 0xA0 else 0x80, if b == 0xED then 0x9F else 0xBF)
  else if b < 0xF5 then
    some (4, if b == 0xF0 then 0x90 else 0x80, if b == 0xF4 then 0x8F else 0xBF)
  else none

def continued : Nat → UInt8 → UInt8 → List UInt8 → Nat
  | 0, _, _, _ => 0
  | _, _, _, [] => 0
  | n + 1, least, most, b :: rest =>
    if least ≤ b && b ≤ most then continued n 0x80 0xBF rest + 1 else 0

def flawFrom (position : Nat) : Nat → List UInt8 → Option Flaw
  | _, [] => none
  | skip + 1, _ :: rest => flawFrom (position + 1) skip rest
  | 0, b :: rest =>
    match shape? b with
    | none => some ⟨b, position, 1, .badStart⟩
    | some (length, least, most) =>
      let n := continued (length - 1) least most rest
      if n + 1 == length then flawFrom (position + 1) n rest
      else if n == rest.length then some ⟨b, position, n + 1, .cutOff⟩
      else some ⟨b, position, n + 1, .badContinuation⟩

def flaw? (data : List UInt8) : Option Flaw := flawFrom 0 0 data

def refusal (s : String) : String :=
  let before := s.toList.takeWhile fun c => (half? c).isNone
  let halves := (s.toList.drop before.length).takeWhile fun c => (half? c).isSome
  let start := before.length
  let place := match halves with
    | [c] => s!"character '\\u{hex 4 (unitOf c)}' in position {start}"
    | _ => s!"characters in position {start}-{start + halves.length - 1}"
  s!"'utf-8' codec can't encode {place}: surrogates not allowed"

end Huntbook.Text.Bytes
