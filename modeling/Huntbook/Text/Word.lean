/-!
# Word characters

The characters that make up words: letters, digits and other numerals of every script, and the
underscore.
-/

/-- The characters of a text. -/
abbrev Huntbook.Chars := List Char

abbrev Huntbook.Texts := List String

abbrev Huntbook.TextPairs := List (String × String)

namespace Huntbook.Text

def inRanges (table : List (Nat × Nat)) (c : Char) : Bool :=
  table.any fun r => r.1 ≤ c.toNat && c.toNat ≤ r.2

def unpackFrom (n : Nat) : Chars → List Nat
  | [] => []
  | c :: cs =>
    if c.isUpper then (26 * n + (c.toNat - 'A'.toNat)) :: unpackFrom 0 cs
    else unpackFrom (26 * n + (c.toNat - 'a'.toNat)) cs

/-- The numbers of a packed table: in base 26, the last digit of each as a capital. -/
def unpack (table : String) : List Nat := unpackFrom 0 table.toList

def rangesFrom (start : Nat) : List Nat → List (Nat × Nat)
  | before :: size :: rest =>
    (start + before, start + before + size - 1) :: rangesFrom (start + before + size) rest
  | _ => []

def wordRanges : List (Nat × Nat) :=
  rangesFrom 0 (unpack
    ("gOBHCBBDCBDBXBbFBrQEMOFHBBBeZFBCCEBBGBBDBBBUBdFBfJIgKBbMCBGbPcTbBEEbTbRVKECBdVBBPCHPCBQBBb" ++
     "EbDdLLBObRJCEBFWEBJBDBXZHLFYBGRbQcGcCDBSBHKEKBQEICCCWBHBBDEDBQBNCBDEMCGCBIGECCWBHBCBCBCbFE" ++
     "BBHKCDQJBDBWBHBCBFDBSBPCEKJBLICCCWBHBCBFDBbECBDEKBHLBBGDDBEDCBBBCDCDDDMWBVNSIBDBXBQDBbADCB" ++
     "CCEKIHBBEIBDBXBKBFDBbFCBCEKBCRJBDBbPCBQBFDBKETBGFSDYBJBBCHbFKRbWBCMHJKbNCBBBFBYBBBKBCJBCFB" ++
     "BJKCEbGBbFUMIBbKbBFeLbRULGGEEDBDCHDENMBBKGbMBBFBCbRBmVBECHBBBECbPBECbHBECHBBBECPBcFBECcPOU" ++
     "DQQdICGDxWCRBbAFcXDLHSNTOSONBDPcAbJBEBDKGKWKGdLHFCbIBBFcSKbFbNbOCFLbSEbAGLbLXJcBbRKGKNBdPb" ++
     "VRIDKbPbENcEbAbKbCKDbXCJHbRCDbPEBGBCDBFhKcMkSCGCbMCGCIBBBBBBBbFCcBBHBBDDBHDECGENFDBHeLCCGF" ++
     "LGNdXBEBCKBBDFGBBBBBBEBLCEFFEBBcGbbYcIdAWyGbEbrOiVGEDCJBCbMBBFBCcEHBQXJHBHBHBHBHBHBHBHdCBs" ++
     "BDZJHFCFEdIGDBdMBEFbRBdQDEKbGbWQbGKbEIBPbGKbNPmIjtOcMbguFcPbUCkJDbCUbVQbFCdCbNJCdZCcMFCBBB" ++
     "FYQBDBEBXNGKcAObYbCKYGDBBCBbMKXZbDHbVbCLGFBZBbPXDBIEKGXDBDbYBBDCCFCBBBYDCLHDMGCGCGJHBHBbRB" ++
     "OGeLNKGqnSMXEbXmnCoCCeCbMHMFFBBKBNBFBBBCBCBeEbHnZScMCcCbOMeMFBfFTKHbAGbALdLDGCGCGCDbJMBbAB" ++
     "TBCBPCObIeTMbTMcFRCjKbDDbXQbBEbKJbEFbMKbECbKEIBFbQgCCKGbKEbKEbOIcAMLBPBHBCBLBPBHBCcPlZJWKI" ++
     "YGBbQBJcRGCBBbSBCDBCXCbFCbMIJbWTBCFbHEbAcScEEUCbVPEBDBbDKJXbFBbGbGIBbCGFQcCKWCbBFbAXHdCcVc" ++
     "DbZNbZHbQMKlIbFBbQGCdAbOIWLEbBSbUbCUXMcBbAbEBCCBNbTbGZHKJbKPKEBCBIbJDBMbWOELLBBEULSBZdGHBB" ++
     "BEBPBKHbVRKLICCCWBHBCBFDBSBMFgCcBSEFKFDbEbWUCBBIKgKbVbPEbKbWUBLKbMbRNBHKcCbBVMEHhDbSeMdFMI" ++
     "CBCIBCBYPBBBOKcSICbNQBBBbCBKbOHBVBLbUTBScVkDJBbLRBPbDFbEeIHBCBbMVBJKGGBCBbGOBHKlYThHBPVbRb" ++
     "jMdYeHRhOdxKdTPbpFfzTwLmuBvXHbFBKGdBBKGbESbWQEMKBHBVFTbaMdJeBcXFBcONcMCBBbCjcAIbvQbQJnfREB" ++
     "HBCBlFbTDREIpGdkUeDFNDJHKilIUeEZfFdHBcTBCCBCCCEBMBBBHBcNBECIBHBbCBEBFBBDHBnCCZBZBbFBZBbFBZ" ++
     "BbFBZBbFBZBICbYcqYbFsNbTKHCKEBmJbESbSEKbwGHBEBCBPBhPCJbWcQHBEKbeLcHBDBEcYbTBPhMEBbBBCBBCBB" ++
     "KBEBBBBGBEBBBBBBDBCBBCBBBBBBBBBBCBBCEBHBEBEBBBKBRFDBFBRwINedFKbnQclfCbGgdTHiOCinQOlbLepJuW" ++
     "cfYhhZ"))

def decimalRanges : List (Nat × Nat) :=
  rangesFrom 0
    [1632,10,134,10,198,10,412,10,118,10,118,10,118,10,118,10,118,10,118,10,118,10,118,10,118,10,
     96,10,118,10,70,10,278,10,70,10,1862,10,38,10,300,10,128,10,166,10,6,10,182,10,86,10,134,10,6,
     10,35270,10,678,10,38,10,198,10,22,10,86,10,406,10,21270,10,1414,10,2182,10,812,10,128,10,60,
     10,144,10,278,10,342,10,118,10,374,10,102,10,102,10,422,10,102,10,758,10,246,10,70,10,19638,
     10,86,10,134,10,27764,50,2368,10,422,10,1622,10,4758,10]

def digitSignRanges : List (Nat × Nat) :=
  [(178, 179), (185, 185), (4969, 4977), (6618, 6618), (8304, 8304), (8308, 8313), (8320, 8329),
   (9312, 9320), (9332, 9340), (9352, 9360), (9450, 9450), (9461, 9469), (9471, 9471),
   (10102, 10110), (10112, 10120), (10122, 10130), (68160, 68163), (69216, 69224), (69714, 69722),
   (127232, 127242)]

def isWord (c : Char) : Bool :=
  if c.toNat < 128 then c.isAlphanum || c == '_' else inRanges wordRanges c

def isDecimal (c : Char) : Bool := if c.toNat < 128 then c.isDigit else inRanges decimalRanges c

def decimalValue? (c : Char) : Option Nat :=
  if c.isDigit then some (c.toNat - '0'.toNat)
  else (decimalRanges.find? fun r => r.1 ≤ c.toNat && c.toNat ≤ r.2).map fun r =>
    (c.toNat - r.1) % 10

def isDigit (c : Char) : Bool := isDecimal c || inRanges digitSignRanges c

def isBoundary (before after : Option Char) : Bool := before.any isWord != after.any isWord

/-! ## Blanks -/

def isBlank (c : Char) : Bool :=
  (9 ≤ c.toNat && c.toNat ≤ 13) || (28 ≤ c.toNat && c.toNat ≤ 32)
    || c.toNat == 0x85 || c.toNat == 0xa0 || c.toNat == 0x1680
    || (0x2000 ≤ c.toNat && c.toNat ≤ 0x200a)
    || c.toNat == 0x2028 || c.toNat == 0x2029 || c.toNat == 0x202f
    || c.toNat == 0x205f || c.toNat == 0x3000

def dropEndWhile (p : Char → Bool) (cs : Chars) : Chars := (cs.reverse.dropWhile p).reverse

def strip (p : Char → Bool) (cs : Chars) : Chars := dropEndWhile p (cs.dropWhile p)

def trim (s : String) : String := String.ofList (strip isBlank s.toList)

def wordsFrom (current : Chars) : Chars → List Chars
  | [] => if current.isEmpty then [] else [current.reverse]
  | c :: cs =>
    if isBlank c then
      if current.isEmpty then wordsFrom [] cs else current.reverse :: wordsFrom [] cs
    else wordsFrom (c :: current) cs

def words (s : String) : Texts := (wordsFrom [] s.toList).map String.ofList

/-! ## Punctuation

The marks of every script that structure a text: dashes, brackets, quotation marks and the like. -/

def isSign (c : Char) : Bool := 33 ≤ c.toNat && c.toNat < 127 && !c.isAlphanum

def punctuationRanges : List (Nat × Nat) :=
  rangesFrom 0 (unpack
    ("gFBFBDBKCDBDBbbABIBrYGbPCbZBBBCBCBbSCUCBCNBBDcWEdYBbROiZDcCPbFBkBCKBfKBeQBeRBpABMBoDBdMBKC" ++
     "gMPBBbLEcTBcWFECeHGgPBxOJfVBxXBbSCdADcTCgBDBDbLLmBCiICeYHBGgQHbCCeVEcHFcKCcMILBbfWYIUBNBMb" ++
     "ECOCyJEbDCbpTOdBCbFKpNWcLEbGCbdJEBCeIBfNbVBbGCMqDDEKCMQBMBdUBdMBbryGCkJDdVBKBeLGoQEdICbODB" ++
     "BbXCbVBdTNQCeUEeWCQCjPBbeuSCiAKWbJBOBBEBBCfTDBGBEKCDCbADBBbBBBBBHpUDzSBbWBpYBbcPBhRBbFBkMJ" ++
     "bMBeIHcOHdLEbeEBgLFbSEhHHeFCBEeWEbWCdBEEBNBBDdKGeDBqBFKCBBeABjQXeBDbCNcYBfADjSBkEDfZBdOIdF" ++
     "DBFpYFbQCyVCkCBbrSFejCCwdVCfDBcNFIBbgSEmPBbdbOBliLFfpYC"))

def isPunctuation (c : Char) : Bool := isSign c || inRanges punctuationRanges c

end Huntbook.Text
