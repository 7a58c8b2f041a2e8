import Huntbook.Text.Word

/-!
# Upper and lower case

Case conversion of whole texts, for every script. Most letters change by a fixed distance, so the
tables list runs of code points with the distance.
-/

namespace Huntbook.Text

/-- Characters that are equally far from their other case. -/
structure CaseRun where
  (first last stride : Nat)
  distance : Int

/-- Runs by what lies before each one, its size, and twice its distance, odd for one downwards. -/
def runsFrom (start : Nat) : List Nat → List CaseRun
  | before :: size :: twice :: rest =>
    ⟨start + before, start + before + size - 1, 1,
      if twice % 2 == 0 then twice / 2 else -(twice / 2)⟩ :: runsFrom (start + before + size) rest
  | _ => []

def alternatingFrom (start : Nat) : List Nat → List CaseRun
  | before :: size :: rest =>
    ⟨start + before, start + before + 2 * size - 2, 2, 1⟩ ::
      alternatingFrom (start + before + 2 * size - 1) rest
  | _ => []

def lowerRuns : List CaseRun :=
  runsFrom 0 (unpack
    ("hKXcMBHcMfXBjJIBqEEBpWCCpUDBgCABpOABpQCBpUABpYBBqGABqCEBqGABqKBBqMGBqUCBqUEBqUCCqSEBqWMBECB" ++
     "ECBEbMBEEBhNABeJbOBkBZBbfyKCBmPABbfyEEBpBABfIABfMmBBiYGBcYBDcWBBeYBCeWBRcMBJcMbJBQbKBeREBPD" ++
     "DkBAQgEAbGcMfOBbEeIbMdSehDbMvmUBBvmUFBvmUbbUdCekzOAGQdgSbRixLCDixLsKBwnVeBIRIGRKIRIIRIGRLBR" ++
     "BBRBBRBBRIIRYIRIIRIIRICRACfTABTLEgRABTLCRAChTMCRACiRABPLCjXACjTABTlLBwgHDByuXABylPGBcEbTQbG" ++
     "bgGbAcAcsUbWdSbYBbfuLABlhLABbftFIBbfxHABbfuXABbfxNABbfxLNCbfzZbuoZBeanXPBevcJbCBeveNABevfJA" ++
     "BevfBABeveHABeveNBBevaRABevcNABevaXABctKQBdTABeveLABearXbhcCbAcMbuZbOdCfGbKdCgALdABPdABHdAB" ++
     "CdAcqCbZeYenLbGcMbgjWbGcMbulKbIcQ")) ++
  alternatingFrom 0 (unpack
    ("jWYDDCICXCDECCBDBFBGBHDCBEBCBDCCBDBIBCBCJCJDCDUDJIBFBEFlDCDBdTMIBCBdXRJbBCHCbWjkJcXLbWyUBec" ++
     "YBGDGBCBKbYICEBbtyJXTOfFHDbFKCCFEBECDKLIECGBFCbCB"))

def CaseRun.back (r : CaseRun) : CaseRun :=
  ⟨Int.toNat (r.first + r.distance), Int.toNat (r.last + r.distance), r.stride, -r.distance⟩

/-- Letters above 127 with an upper case of one character. Where that is not the letter that they
    are the lower case of, they are listed first; at no distance stand those without one. -/
def upperRuns : List CaseRun :=
  runsFrom 0 (unpack
    ("gZBcfEbPBAdDBrXcZBxDcRBDCBDCBDbMBDnABgMeUBcLNBeVABeLDBdRABeFZBgRABgFDBhLjhQBsnDABsnBABsmJAC" ++
     "smFABsmHABslTABshNABeaiUuKBePiUIAIIAIIALBAKBviHEBAbVBA")) ++
    lowerRuns.map CaseRun.back

def expansionsFrom (start : Nat) : List Nat → List (Nat × List Nat)
  | after :: a :: b :: c :: rest =>
    (start + after, [a, b, c].filter (· != 0)) :: expansionsFrom (start + after) rest
  | _ => []

def upperExpansions : List (Nat × List Nat) :=
  expansionsFrom 0 (unpack
    ("iPdFdFAeCbaYdAAgLcWbeAAqAbjLbdWbdPbGbjXbdWbdPsDbzHcaKAjmTcUbfLABdGbdWABdJbdYABdLbdYABcNbbAA" ++
     "hAbjXbeHACbjXbeHbdOCbjXbeHbdPCbjXbeHbgCdOmaKbjLABbjDbjLABbiSbjLACbjDbgCABbjDbgCbjLFbjDbjLAG" ++
     "mbAbjLABbjJbjLABbiVbjLACbjJbgCABbjJbgCbjLFbjJbjLAGbjLbdWbdOBbjLbdWbdPDbjLbgCABbjLbdWbgCLbjX" ++
     "bdWbdOBbjXbdWbdPBbjTbeHACbjXbgCABbjXbdWbgCLmcWbjLABbkBbjLABbjBbjLACbkBbgCABbkBbgCbjLFbkBbjL" ++
     "AdeyMcScSABcScVABcScYABcScScVBcScScYBdFdGABdFdGANbzWbzYABbzWbzHABbzWbzNABcaGbzYABbzWbzPA")) ++
  -- Greek letters with an iota below them
  [(8064, 7944), (8080, 7976), (8096, 8040)].flatMap fun (first, capital) =>
    (List.range 16).map fun i => (first + i, [capital + i % 8, 921])

def casedRanges : List (Nat × Nat) :=
  rangesFrom 0 (unpack
    ("gOBKBEBFXBbFBhNBEEiABbKHCbEFdSBbQECCCEBBGBBDBBBUBdFBfJIgKBbMJbPefFbMBBFBCbRCDzWdICGdfUJHbR" ++
     "CDcMhKcMkSCGCbMCGCIBBBBBBBbFCcBBHBBDDBHDECGENFDBHeMBNBQNdXBEBCKBBDFGBBBBBBEBGEBCEFFEBRbGDC" ++
     "bfLcAcrUiVGEDCMbMBBFBbtwCbUSbEfCdYDEBcHFCBBBFbBCBDbfPbRBNHdCbeaIHMFbnTbAGbAbtTdCdSbKEbKeML" ++
     "BPBHBCBLBPBHBCrJBCDBbQBJbuZbZNbZekZcMbgiQcMbmlKdHBcTBCCBCCCEBMBBBHBcNBECIBHBbCBEBFBBDHBnCC" ++
     "ZBZBbFBZBbFBZBbFBZBbFBZBIcsYKBUdtHcQdaAbAGbAGbA"))

def caseIgnorableRanges : List (Nat × Nat) :=
  rangesFrom 0 (unpack
    ("bNBGBLBbJBBBcTBEBBBEBCCtJhKECEBJCBBjRHhZBFBbXbTBBBCBCBBbSBLGKLBBbJBKVQBdXIBKBEbHBBBbEbBdNL" ++
     "cGLEBCBYYbRDbSBHCGIbPcGcDBBBEIEBDHKCNBPBcGBEEIBUCbABCCcFBECECCDDBbECDBLCcFBEFBCEBUCWGBBcGB" ++
     "CBBEIBHCLCbEBcJBMBbYBDBcDBBDFDBEHCLCbDBcGBCBGBFCUCbCCcFCEEIBUCbDBcUBHDBBdMBCHLJdUBCJJBBGcW" ++
     "CbBBBBBBcDOBFBCFLBbKJBdYEBGBCCCZCEDQENBCCGBPBdQBxKDbkKDbDCbECbECcMCBHIBCLDBFBbTFbZBcNCbIBe" ++
     "ODECJBGDiLCCBcGBBHBBBBCIGKCBbNBIbFbXEbWBBFBBFBbOJMCbGECCBDcEBBCDBBDcGICCcMGdEDBNBHEBGBDCbY" ++
     "cLNBbIdXrDBBDLDNDNDNCMFICKBCBCFbXFBKBBNBQNbZbHejRCeJDeVBPBdSbGbVBsBBbKEDFFBdPGdPDbqbUBbwCG" ++
     "kKBdUEBKBBbCEdCCObIdABXDdZDDCIBDBEBZCFBfVCbASNBbMIZLbUDbWBCECCRBVCcOGCCCCMBIBbJBLBbZBBDCCF" ++
     "CBBbBBOCFCBBdWFJDeRBCBEBbdzSBfRRwBQDBMQbIBCBgNBHBGBLBbJBBBbVBbTCcPBVDtTBiSBfTFbnPGBbQBJwKD" ++
     "BCFEbODEBgJCwBEoXCfXLbXEeTBcCPbPBCCKDbXECCCBEBKBbYDbKFBIcKBMCcAJKECBdRDCBBCGBgEBDIVCcFCDBb" ++
     "LHDFhNICDBBXBdGGBBECBCjEEGCBCbBCdHICBBCeCBBBCGBBdXDCEBFjZJBCjWCBBEBfOECCEBbGKbOGCEIBJGCDbU" ++
     "NBCpQHBGBBdEWCHBCBCeSGDBBCBHBBcUCDBBBnJCibBJusTFcHHJEbnVBcLRcMCBCygPEBHBCeuGCBEgyUbUCXuYDJ" ++
     "QCHbEEfSDcyDcDEbYIBOBWFBPcaIHBRCHBCBFkBOoEBcJEcfWHeFIebFFbsxxPBbEdSeYjG"))

def shiftCase? (table : List CaseRun) (c : Char) : Option Char :=
  (table.find? fun r => r.first ≤ c.toNat && c.toNat ≤ r.last
      && (c.toNat - r.first) % r.stride == 0).map fun r =>
    Char.ofNat (Int.toNat (c.toNat + r.distance))

def isCased (c : Char) : Bool := if c.toNat < 128 then c.isAlpha else inRanges casedRanges c

def startsCased (cs : Chars) : Bool :=
  ((cs.dropWhile fun c => inRanges caseIgnorableRanges c).head?).any isCased

def lowerChar (before : Chars) (c : Char) (after : Chars) : Chars :=
  if c.toNat < 128 then [c.toLower]
  else if c.toNat == 931 then
    [Char.ofNat (if startsCased before && !startsCased after then 962 else 963)]
  else if c.toNat == 304 then ['i', Char.ofNat 775]
  else [(shiftCase? lowerRuns c).getD c]

def upperChar (c : Char) : Chars :=
  if c.toNat < 128 then [c.toUpper]
  else match upperExpansions.find? fun e => e.1 == c.toNat with
    | some (_, us) => us.map Char.ofNat
    | none => [(shiftCase? upperRuns c).getD c]

def lowerFrom (before : Chars) : Chars → Chars
  | [] => []
  | c :: cs => lowerChar before c cs ++ lowerFrom (c :: before) cs

def lower (s : String) : String := String.ofList (lowerFrom [] s.toList)

def upper (s : String) : String := String.ofList (s.toList.flatMap upperChar)

/-- Whether `c` equals the lower-case ASCII letter `letter` when case is ignored. Beside the two
    ASCII forms this holds for the Kelvin sign, the long s, and the dotted and dotless i. -/
def equalsFold (letter c : Char) : Bool :=
  c.toLower == letter
    || (letter == 'k' && c.toNat == 8490)
    || (letter == 's' && c.toNat == 383)
    || (letter == 'i' && (c.toNat == 304 || c.toNat == 305))

def lowerAlone (c : Char) : Char :=
  if c.toNat < 128 then c.toLower
  else if c.toNat == 304 then 'i'
  else (shiftCase? lowerRuns c).getD c

def upperAlone (c : Char) : Char :=
  if c.toNat < 128 then c.toUpper else (shiftCase? upperRuns c).getD c

def alikeGroups : List (List Nat) :=
  [[105, 305], [115, 383], [181, 956], [837, 953, 8126], [912, 8147], [944, 8163], [946, 976],
   [949, 1013], [952, 977], [954, 1008], [960, 982], [961, 1009], [962, 963], [966, 981],
   [1074, 7296], [1076, 7297], [1086, 7298], [1089, 7299], [1090, 7300, 7301], [1098, 7302],
   [1123, 7303], [7304, 42571], [7777, 7835], [64261, 64262]]

def alike (c : Char) : Chars :=
  let lower := lowerAlone c
  match alikeGroups.find? (·.contains lower.toNat) with
  | some group => group.map Char.ofNat
  | none => [lower]

def sameFold (a b : Char) : Bool := a == b || (alike a).contains (lowerAlone b)

/-- The rest of `cs` after the lower-case ASCII word `word`, read without regard to case. -/
def dropFold? : Chars → Chars → Option Chars
  | [], cs => some cs
  | _ :: _, [] => none
  | w :: ws, c :: cs => if equalsFold w c then dropFold? ws cs else none

end Huntbook.Text
