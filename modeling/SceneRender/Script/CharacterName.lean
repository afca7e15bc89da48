import SceneRender.Script.CharacterName.Alphabets
import SceneRender.Script.CharacterName.Ancient
import SceneRender.Script.CharacterName.EastAsian
import SceneRender.Script.CharacterName.Pictographs
import SceneRender.Script.CharacterName.Symbols

/-!
# Characters by name

A character is found by its name in a table, or by the rule that its name follows:
ideographs and some others are numbered, and Korean syllables are spelled by their
letters.  The case of a name does not count; all else does.

A table lists names in the order of their characters.  A small letter begins a name
and says how many words it shares with the name before: none for `a`, one for `b`,
and so on; its other words follow.  A name belongs to the character after the one of
the name before, unless `@` and a hexadecimal code point stand in front of it.
-/

namespace SceneRender.Script

namespace CharacterName

/-- The number that hexadecimal digits in upper case spell. -/
def hexadecimal? (digits : List Char) : Option Nat :=
  digits.foldlM (fun n c =>
    if c.isDigit then some (16 * n + (c.toNat - '0'.toNat))
    else if 'A' ≤ c && c ≤ 'F' then some (16 * n + (c.toNat - 'A'.toNat + 10))
    else none) 0

/-- The words of a list between blanks. -/
def words (cs : List Char) : List (List Char) :=
  cs.foldr
    (fun c ws =>
      match ws with
      | [] => [[c]]
      | w :: rest => if c == ' ' then [] :: w :: rest else (c :: w) :: rest)
    [[]]

/-! ## Tables -/

/-- The names that a character has beside its own: corrections, abbreviations, and the names of
control characters, which have no others. -/
def aliases : String :=
  "@0aNULL@0aNULaSTART OF HEADING@1aSOHaSTART OF TEXT@2aSTXaEND OF TEXT@3aETXaEND OF TRANSMISSION
@4aEOTaENQUIRY@5aENQaACKNOWLEDGE@6aACKaALERT@7aBELaBACKSPACE@8aBSaCHARACTER TABULATION
@9aHORIZONTAL TABULATION@9aHT@9aTABaLINE FEED@AaNEW LINE@AaEND OF LINE@AaLF@AaNL@AaEOL
aLINE TABULATION@BaVERTICAL TABULATION@BaVTaFORM FEED@CaFFaCARRIAGE RETURN@DaCRaSHIFT OUT
@EaLOCKING-SHIFT ONE@EaSOaSHIFT IN@FaLOCKING-SHIFT ZERO@FaSIaDATA LINK ESCAPE@10aDLE
aDEVICE CONTROL ONE@11aDC1aDEVICE CONTROL TWO@12aDC2aDEVICE CONTROL THREE@13aDC3
aDEVICE CONTROL FOUR@14aDC4aNEGATIVE ACKNOWLEDGE@15aNAKaSYNCHRONOUS IDLE@16aSYN
aEND OF TRANSMISSION BLOCK@17aETBaCANCEL@18aCANaEND OF MEDIUM@19aEOM@19aEMaSUBSTITUTE@1AaSUB
aESCAPE@1BaESCaINFORMATION SEPARATOR FOUR@1CaFILE SEPARATOR@1CaFSaINFORMATION SEPARATOR THREE
@1DaGROUP SEPARATOR@1DaGSaINFORMATION SEPARATOR TWO@1EaRECORD SEPARATOR@1EaRS
aINFORMATION SEPARATOR ONE@1FaUNIT SEPARATOR@1FaUSaSP@7FaDELETE@7FaDELaPADDING CHARACTER@80aPAD
aHIGH OCTET PRESET@81aHOPaBREAK PERMITTED HERE@82aBPHaNO BREAK HERE@83aNBHaINDEX@84aINDaNEXT LINE
@85aNELaSTART OF SELECTED AREA@86aSSAaEND OF SELECTED AREA@87aESAaCHARACTER TABULATION SET
@88aHORIZONTAL TABULATION SET@88aHTSaCHARACTER TABULATION WITH JUSTIFICATION
@89aHORIZONTAL TABULATION WITH JUSTIFICATION@89aHTJaLINE TABULATION SET@8AaVERTICAL TABULATION SET
@8AaVTSaPARTIAL LINE FORWARD@8BcDOWN@8BaPLDaPARTIAL LINE BACKWARD@8CcUP@8CaPLUaREVERSE LINE FEED
@8DbINDEX@8DaRIaSINGLE SHIFT TWO@8EaSINGLE-SHIFT-2@8EaSS2aSINGLE SHIFT THREE@8FaSINGLE-SHIFT-3
@8FaSS3aDEVICE CONTROL STRING@90aDCSaPRIVATE USE ONE@91bUSE-1@91aPU1aPRIVATE USE TWO@92bUSE-2
@92aPU2aSET TRANSMIT STATE@93aSTSaCANCEL CHARACTER@94aCCHaMESSAGE WAITING@95aMW
aSTART OF GUARDED AREA@96cPROTECTED AREA@96aSPAaEND OF GUARDED AREA@97cPROTECTED AREA@97aEPA
aSTART OF STRING@98aSOSaSINGLE GRAPHIC CHARACTER INTRODUCER@99aSGCaSINGLE CHARACTER INTRODUCER
@9AaSCIaCONTROL SEQUENCE INTRODUCER@9BaCSIaSTRING TERMINATOR@9CaSTaOPERATING SYSTEM COMMAND@9DaOSC
aPRIVACY MESSAGE@9EaPMaAPPLICATION PROGRAM COMMAND@9FaAPCaNBSP@ADaSHY@1A2aLATIN CAPITAL LETTER GHA
bSMALL LETTER GHA@34FaCGJ@616aARABIC SMALL HIGH LIGATURE ALEF WITH YEH BARREE@61CaALM
@709aSYRIAC SUBLINEAR COLON SKEWED LEFT@CDEaKANNADA LETTER LLLA@E9DaLAO LETTER FO FON@E9FdFAY
@EA3cRO@EA5cLO@FD0aTIBETAN MARK BKA- SHOG GI MGO RGYAN@11ECaHANGUL JONGSEONG YESIEUNG-KIYEOK
cYESIEUNG-SSANGKIYEOKcSSANGYESIEUNGcYESIEUNG-KHIEUKH@180BaFVS1aFVS2aFVS3aMVSaFVS4
@1BBDaSUNDANESE LETTER ARCHAIC I@200BaZWSPaZWNJaZWJaLRMaRLM@202AaLREaRLEaPDFaLROaRLOaNNBSP
@205FaMMSPaWJ@2066aLRIaRLIaFSIaPDI@2118aWEIERSTRASS ELLIPTIC FUNCTION@2448aMICR ON US SYMBOL
bDASH SYMBOL@2B7AaLEFTWARDS TRIANGLE-HEADED ARROW WITH DOUBLE VERTICAL STROKE
@2B7CaRIGHTWARDS TRIANGLE-HEADED ARROW WITH DOUBLE VERTICAL STROKE@A015aYI SYLLABLE ITERATION MARK
@AA6EaMYANMAR LETTER KHAMTI LLA@FE18aPRESENTATION FORM FOR VERTICAL RIGHT WHITE LENTICULAR BRACKET
@FEFFaBYTE ORDER MARK@FEFFaBOM@FEFFaZWNBSP@122D4aCUNEIFORM SIGN NU11 TENUdOVER NU11 BUR OVER BUR
@16E56aMEDEFAIDRIN CAPITAL LETTER HdNG@16E76bSMALL LETTER HdNG@1B001aHENTAIGANA LETTER E-1
@1D0C5aBYZANTINE MUSICAL SYMBOL FTHORA SKLIRON CHROMA VASIS"

/-- How many words two lists begin with alike. -/
def sharedWords : List (List Char) → List (List Char) → Nat
  | v :: vs, w :: ws => if v == w then sharedWords vs ws + 1 else 0
  | _, _ => 0

/-- Does the character begin something new in a table? -/
def isMark (c : Char) : Bool := c == '@' || c == '\n' || c.isLower

/-- Looks a name up in a table; `code` is the character of the next name, and the name
before begins with the first `shared` words of the one that is looked for. -/
def find? (name : List (List Char)) : Nat → Nat → Nat → List Char → Option Char
  | 0, _, _, _ => none
  | _, _, _, [] => none
  | fuel + 1, code, shared, c :: rest =>
    let text := rest.takeWhile fun c => !isMark c
    let rest := rest.dropWhile fun c => !isMark c
    if c == '\n' then find? name fuel code shared rest
    else if c == '@' then find? name fuel ((hexadecimal? text).getD 0) shared rest
    else
      let kept := c.toNat - 'a'.toNat
      if shared < kept then find? name fuel (code + 1) shared rest
      else
        let others := words text
        let same := sharedWords (name.drop kept) others
        if same == others.length && name.length == kept + same then some (Char.ofNat code)
        else find? name fuel (code + 1) (kept + same) rest

/-- The tables. -/
def tables : List String := [alphabets, symbols, eastAsian, ancient, pictographs, aliases]

/-- The character of a name in one of the tables. -/
def inTables? (name : List Char) : Option Char :=
  let name := words name
  tables.findSome? fun table =>
    let cs := table.toList
    find? name (cs.length + 1) 0 0 cs

/-! ## Rules -/

/-- Characters with numbered names: what comes before the number, in which base it is
written and with how many digits at least, the number of the first of them, and the
first and the last of them. -/
structure Numbered where
  start : String
  base : Nat
  width : Nat
  number : Nat
  first : Nat
  last : Nat

/-- The characters with numbered names. -/
def numbered : List Numbered :=
  let byCode (start : String) (first last : Nat) : Numbered := ⟨start, 16, 0, first, first, last⟩
  [byCode "CJK COMPATIBILITY IDEOGRAPH-" 0xF900 0xFA6D,
   byCode "CJK COMPATIBILITY IDEOGRAPH-" 0xFA70 0xFAD9,
   byCode "CJK COMPATIBILITY IDEOGRAPH-" 0x2F800 0x2FA1D,
   byCode "NUSHU CHARACTER-" 0x1B170 0x1B2FB,
   byCode "KHITAN SMALL SCRIPT CHARACTER-" 0x18B00 0x18CD5,
   ⟨"TANGUT COMPONENT-", 10, 3, 1, 0x18800, 0x18AFF⟩,
   ⟨"VARIATION SELECTOR-", 10, 0, 1, 0xFE00, 0xFE0F⟩,
   ⟨"VARIATION SELECTOR-", 10, 0, 17, 0xE0100, 0xE01EF⟩,
   ⟨"VS", 10, 0, 1, 0xFE00, 0xFE0F⟩,
   ⟨"VS", 10, 0, 17, 0xE0100, 0xE01EF⟩]

/-- A number in a base as it stands in a name. -/
def Numbered.digits (r : Numbered) (n : Nat) : List Char :=
  let digits := (Nat.toDigits r.base n).map Char.toUpper
  List.replicate (r.width - digits.length) '0' ++ digits

/-- The character of a numbered name. -/
def Numbered.find? (r : Numbered) (name : List Char) : Option Char :=
  let start := r.start.toList
  if start.isPrefixOf name then
    let count := r.last + 1 - r.first
    ((List.range count).find? fun i => r.digits (r.number + i) == name.drop start.length).map
      fun i => Char.ofNat (r.first + i)
  else none

/-- The ranges of the ideographs. -/
def ideographRanges : List (Nat × Nat) :=
  [(0x3400, 0x4DBF), (0x4E00, 0x9FFF), (0x20000, 0x2A6DF), (0x2A700, 0x2B739), (0x2B740, 0x2B81D),
   (0x2B820, 0x2CEA1), (0x2CEB0, 0x2EBE0), (0x30000, 0x3134A), (0x31350, 0x323AF)]

/-- How the names of ideographs begin. -/
def ideographStart : List Char := "CJK UNIFIED IDEOGRAPH-".toList

/-- The ideograph of a name, which ends in its code point with up to five digits. -/
def ideograph? (name : List Char) : Option Char := do
  let digits := name.drop ideographStart.length
  let code ← hexadecimal? digits
  if ideographStart.isPrefixOf name && digits.length ≤ 5 &&
      ideographRanges.any fun r => r.1 ≤ code && code ≤ r.2 then
    some (Char.ofNat code)
  else none

/-- The letters that begin Korean syllables. -/
def leadingLetters : List String :=
  ["G", "GG", "N", "D", "DD", "R", "M", "B", "BB", "S", "SS", "", "J", "JJ", "C", "K", "T", "P",
   "H"]

/-- The vowels of Korean syllables. -/
def vowels : List String :=
  ["A", "AE", "YA", "YAE", "EO", "E", "YEO", "YE", "O", "WA", "WAE", "OE", "YO", "U", "WEO", "WE",
   "WI", "YU", "EU", "YI", "I"]

/-- The letters that end Korean syllables. -/
def trailingLetters : List String :=
  ["", "G", "GG", "GS", "N", "NJ", "NH", "D", "L", "LG", "LM", "LB", "LS", "LT", "LP", "LH", "M",
   "B", "BS", "S", "SS", "NG", "J", "C", "K", "T", "P", "H"]

/-- How the names of Korean syllables begin. -/
def syllableStart : List Char := "HANGUL SYLLABLE ".toList

/-- The first Korean syllable. -/
def firstSyllable : Nat := 0xAC00

/-- The Korean syllable of a name: leading letter, vowel and trailing letter, each
in its order. -/
def syllable? (name : List Char) : Option Char :=
  if syllableStart.isPrefixOf name then
    let spelled := name.drop syllableStart.length
    let spellings := leadingLetters.flatMap fun l =>
      vowels.flatMap fun v => trailingLetters.map fun t => (l ++ v ++ t).toList
    (spellings.findIdx? (· == spelled)).map fun i => Char.ofNat (firstSyllable + i)
  else none

end CharacterName

/-- The character with a given name. -/
def characterNamed? (name : String) : Option Char :=
  let name := name.toList.map Char.toUpper
  (CharacterName.ideograph? name).or <| (CharacterName.syllable? name).or <|
    (CharacterName.numbered.findSome? (·.find? name)).or (CharacterName.inTables? name)

end SceneRender.Script
