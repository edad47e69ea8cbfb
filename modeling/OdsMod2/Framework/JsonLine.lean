import OdsMod2.Framework.TextStream

/-!
# JSON objects, one on a line of bytes

A reader of the JSON objects whose values are not nested and that are written without white space
between the tokens. It works on bytes: within quotes every byte stands for itself but the quote, the
backslash and the control characters, an escape denotes a UTF-16 code unit, and the code units come
out in UTF-8. A number keeps its digits. `decode` reads a line, `lines` takes a text apart.

`readObject_objectText` reads back the members of a text that was put together from them, whichever way
each value was written; `lines_flatMap` does so for the lines of a text.
-/

namespace JsonLine

open TextStream

/-! ### Bytes -/

/-- The bytes of a text in ASCII. -/
def ascii (text : List Char) : List UInt8 :=
  text.map Char.toUInt8

def toChar (b : UInt8) : Char :=
  Char.ofNat b.toNat

@[simp] theorem ascii_append (text text' : List Char) :
    ascii (text ++ text') = ascii text ++ ascii text' :=
  List.map_append

theorem toChar_toUInt8 {c : Char} (hc : c.toNat < 128) : toChar c.toUInt8 = c := by
  have hbyte : c.toUInt8.toNat = c.toNat := by
    show c.toNat % 256 = c.toNat
    exact Nat.mod_eq_of_lt (by omega)
  rw [toChar, hbyte, Char.ofNat_toNat]

def quote : UInt8 := 0x22

def backslash : UInt8 := 0x5C

def newline : UInt8 := 0x0A

def comma : UInt8 := 0x2C

def colon : UInt8 := 0x3A

def openBrace : UInt8 := 0x7B

def closeBrace : UInt8 := 0x7D

/-! ### Strings -/

/-- What stands between the quotes: bytes, and code units behind a backslash. -/
inductive Piece where
  | byte (b : UInt8)
  | unit (n : Nat)

def hexValue (b : UInt8) : Option Nat :=
  if 0x30 ≤ b ∧ b ≤ 0x39 then some (b.toNat - 0x30)
  else if 0x41 ≤ b ∧ b ≤ 0x46 then some (b.toNat - 0x37)
  else if 0x61 ≤ b ∧ b ≤ 0x66 then some (b.toNat - 0x57)
  else none

def readHex (a b c d : UInt8) : Option Nat := do
  let a ← hexValue a
  let b ← hexValue b
  let c ← hexValue c
  let d ← hexValue d
  some (((a * 16 + b) * 16 + c) * 16 + d)

/-- The code unit of a character behind a backslash, but for the `u`. -/
def escapeUnit (b : UInt8) : Option Nat :=
  match toChar b with
  | '"' => some 0x22
  | '\\' => some 0x5C
  | '/' => some 0x2F
  | 'b' => some 0x08
  | 'f' => some 0x0C
  | 'n' => some 0x0A
  | 'r' => some 0x0D
  | 't' => some 0x09
  | _ => none

/-- The pieces up to the closing quote, and what follows it. -/
def readPieces : List UInt8 → Option (List Piece × List UInt8)
  | [] => none
  | b :: rest =>
    if b = quote then some ([], rest)
    else if b = backslash then
      match rest with
      | 0x75 :: a :: b :: c :: d :: rest => do
        let unit ← readHex a b c d
        let (pieces, rest) ← readPieces rest
        some (.unit unit :: pieces, rest)
      | e :: rest => do
        let unit ← escapeUnit e
        let (pieces, rest) ← readPieces rest
        some (.unit unit :: pieces, rest)
      | [] => none
    -- a control character must be escaped
    else if b < 0x20 then none
    else do
      let (pieces, rest) ← readPieces rest
      some (.byte b :: pieces, rest)

/-- UTF-8 of a code point; a surrogate is none. -/
def encodePoint (n : Nat) : Option (List UInt8) :=
  if n.isValidChar then some (String.utf8EncodeChar (Char.ofNat n)) else none

/-- The bytes of the pieces; two surrogates make one code point. -/
def pieceBytes : List Piece → Option (List UInt8)
  | [] => some []
  | .byte b :: pieces => do
    let bytes ← pieceBytes pieces
    some (b :: bytes)
  | .unit high :: pieces =>
    if 0xD800 ≤ high ∧ high < 0xDC00 then
      match pieces with
      | .unit low :: pieces =>
        if 0xDC00 ≤ low ∧ low < 0xE000 then do
          let point ← encodePoint (0x10000 + (high - 0xD800) * 0x400 + (low - 0xDC00))
          let bytes ← pieceBytes pieces
          some (point ++ bytes)
        else none
      | _ => none
    else do
      let point ← encodePoint high
      let bytes ← pieceBytes pieces
      some (point ++ bytes)

/-- A string with its quotes. -/
def readString : List UInt8 → Option (List UInt8 × List UInt8)
  | [] => none
  | b :: rest =>
    if b = quote then do
      let (pieces, rest) ← readPieces rest
      let bytes ← pieceBytes pieces
      some (bytes, rest)
    else none

/-! ### Numbers -/

/-- How far a number has been read. -/
inductive NumberState where
  | start | minus | zero | whole | point | fraction | letter | sign | exponent
  deriving DecidableEq

def NumberState.step : NumberState → Char → Option NumberState
  | .start, c =>
    if c = '-' then some .minus else if c = '0' then some .zero
    else if c.isDigit then some .whole else none
  | .minus, c => if c = '0' then some .zero else if c.isDigit then some .whole else none
  -- no digit follows a zero in front
  | .zero, c =>
    if c = '.' then some .point else if c = 'e' ∨ c = 'E' then some .letter else none
  | .whole, c =>
    if c.isDigit then some .whole else if c = '.' then some .point
    else if c = 'e' ∨ c = 'E' then some .letter else none
  | .point, c => if c.isDigit then some .fraction else none
  | .fraction, c =>
    if c.isDigit then some .fraction else if c = 'e' ∨ c = 'E' then some .letter else none
  | .letter, c =>
    if c = '+' ∨ c = '-' then some .sign else if c.isDigit then some .exponent else none
  | .sign, c => if c.isDigit then some .exponent else none
  | .exponent, c => if c.isDigit then some .exponent else none

def NumberState.run (state : NumberState) (text : List Char) : Option NumberState :=
  text.foldlM NumberState.step state

/-- A number may end here. -/
def NumberState.isComplete : NumberState → Bool
  | .zero | .whole | .fraction | .exponent => true
  | _ => false

def isNumber (text : List Char) : Bool :=
  (NumberState.start.run text).any NumberState.isComplete

/-- The byte can belong to a number. -/
def isNumeric (b : UInt8) : Bool :=
  (toChar b).isDigit || toChar b ∈ ['-', '+', '.', 'e', 'E']

def readNumber (text : List UInt8) : Option (List Char × List UInt8) :=
  let digits := (text.takeWhile isNumeric).map toChar
  if isNumber digits then some (digits, text.dropWhile isNumeric) else none

/-! ### Objects -/

inductive Value where
  | string (content : List UInt8)
  | number (text : List Char)
  | true
  | false
  | null
  deriving DecidableEq

def readWord (word : List Char) (value : Value) (text : List UInt8) :
    Option (Value × List UInt8) :=
  if ascii word <+: text then some (value, text.drop word.length) else none

def readValue (text : List UInt8) : Option (Value × List UInt8) :=
  (readString text).map (fun (content, rest) => (.string content, rest)) <|>
    (readNumber text).map (fun (digits, rest) => (.number digits, rest)) <|>
    readWord ['t', 'r', 'u', 'e'] .true text <|>
    readWord ['f', 'a', 'l', 's', 'e'] .false text <|>
    readWord ['n', 'u', 'l', 'l'] .null text

abbrev Member := List UInt8 × Value

def readMember (text : List UInt8) : Option (Member × List UInt8) := do
  let (name, rest) ← readString text
  match rest with
  | [] => none
  | b :: rest =>
    if b = colon then do
      let (value, rest) ← readValue rest
      some ((name, value), rest)
    else none

/-- The members up to the closing brace, at most so many. -/
def readMembers : Nat → List UInt8 → Option (List Member × List UInt8)
  | 0, _ => none
  | bound + 1, text => do
    let (member, rest) ← readMember text
    match rest with
    | [] => none
    | b :: rest =>
      if b = closeBrace then some ([member], rest)
      else if b = comma then do
        let (members, rest) ← readMembers bound rest
        some (member :: members, rest)
      else none

def readObject : List UInt8 → Option (List Member × List UInt8)
  | [] => none
  | b :: rest =>
    if b = openBrace then
      if rest.head? = some closeBrace then some ([], rest.tail)
      else readMembers rest.length rest
    else none

/-- The members of the object that the line is. -/
def decode (line : List UInt8) : Option (List Member) :=
  match readObject line with
  | some (members, []) => some members
  | _ => none

/-- The lines of a text, whether or not the last one is ended. -/
def lines : List UInt8 → List (List UInt8)
  | [] => []
  | b :: rest =>
    if b = newline then [] :: lines rest
    else
      match lines rest with
      | [] => [[b]]
      | line :: more => (b :: line) :: more

/-- The value of the member with the name; of two, a reader keeps the last. -/
def lookup (members : List Member) (name : List Char) : Option Value :=
  (members.reverse.find? fun member => member.1 = ascii name).map Prod.snd

def Value.string? : Value → Option (List UInt8)
  | .string content => some content
  | _ => none

/-- A number that is written with digits alone. -/
def Value.natural? : Value → Option Nat
  | .number text => (readDigits text).bind fun (n, rest) => if rest = [] then some n else none
  | _ => none

/-! ### Reading strings back -/

section Strings

variable {text : List UInt8} {b : UInt8}

/-- Within quotes the text stands for the byte. -/
def Spells (text : List UInt8) (b : UInt8) : Prop :=
  ∀ (rest rest' : List UInt8) (pieces : List Piece), readPieces rest = some (pieces, rest') →
    ∃ piece, readPieces (text ++ rest) = some (piece :: pieces, rest') ∧
      pieceBytes (piece :: pieces) = (pieceBytes pieces).map (b :: ·)

/-- The byte stands for itself. -/
def isPlain (b : UInt8) : Bool :=
  b ≠ quote && b ≠ backslash && !(b < 0x20 : Bool)

theorem isPlain_iff : isPlain b = true ↔ b ≠ quote ∧ b ≠ backslash ∧ ¬ b < 0x20 := by
  simp [isPlain, and_assoc]

theorem pieceBytes_byte (b : UInt8) (pieces : List Piece) :
    pieceBytes (.byte b :: pieces) = (pieceBytes pieces).map (b :: ·) := by
  rw [pieceBytes]
  cases pieceBytes pieces <;> rfl

/-- A code unit of ASCII is one byte. -/
theorem pieceBytes_unit (hb : b.toNat < 128) (pieces : List Piece) :
    pieceBytes (.unit b.toNat :: pieces) = (pieceBytes pieces).map (b :: ·) := by
  have hpoint : encodePoint b.toNat = some [b] := by
    have hvalid : b.toNat.isValidChar := .inl (by omega)
    have hsize : (Char.ofNat b.toNat).utf8Size = 1 := by
      rw [Char.utf8Size_eq_one_iff]
      show (Char.ofNat b.toNat).val.toNat ≤ 127
      rw [Char.ofNat, dif_pos hvalid]
      exact Nat.le_of_lt_succ hb
    rw [encodePoint, if_pos hvalid, String.utf8EncodeChar_eq_singleton hsize]
    rw [Char.ofNat, dif_pos hvalid]
    exact congrArg (fun byte => some [byte]) (UInt8.toNat_inj.mp (Nat.mod_eq_of_lt b.toNat_lt))
  rw [pieceBytes.eq_def]
  show (if 0xD800 ≤ b.toNat ∧ b.toNat < 0xDC00 then _ else _) = _
  -- a unit of ASCII is no surrogate
  rw [if_neg (by omega), hpoint]
  cases pieceBytes pieces <;> rfl

theorem spells_plain (hb : isPlain b = true) : Spells [b] b := by
  intro rest rest' pieces h
  obtain ⟨hquote, hbackslash, hcontrol⟩ := isPlain_iff.mp hb
  refine ⟨.byte b, ?_, pieceBytes_byte b pieces⟩
  rw [List.singleton_append, readPieces.eq_def]
  show (if b = quote then _ else _) = _
  -- neither the end, nor an escape, nor a control character
  rw [if_neg hquote, if_neg hbackslash, if_neg hcontrol, h]
  rfl

/-- A backslash and a letter. -/
theorem spells_escape {e : UInt8} (hb : b.toNat < 128) (he : e ≠ 0x75)
    (hunit : escapeUnit e = some b.toNat) : Spells [backslash, e] b := by
  intro rest rest' pieces h
  refine ⟨.unit b.toNat, ?_, pieceBytes_unit hb pieces⟩
  show readPieces (backslash :: e :: rest) = _
  rw [readPieces, if_neg (by decide), if_pos rfl, hunit, h]
  · rfl
  -- the letter is not the one of a code unit
  · intro _ _ _ _ _ heq _
    exact he heq

/-- A code unit in hexadecimal. -/
theorem spells_unicode {h₁ h₂ h₃ h₄ : UInt8} (hb : b.toNat < 128)
    (hunit : readHex h₁ h₂ h₃ h₄ = some b.toNat) :
    Spells [backslash, 0x75, h₁, h₂, h₃, h₄] b := by
  intro rest rest' pieces h
  refine ⟨.unit b.toNat, ?_, pieceBytes_unit hb pieces⟩
  show readPieces (backslash :: 0x75 :: h₁ :: h₂ :: h₃ :: h₄ :: rest) = _
  rw [readPieces, if_neg (by decide), if_pos rfl]
  show (readHex h₁ h₂ h₃ h₄).bind _ = _
  rw [hunit, Option.bind_some, h]
  rfl

/-- A byte within quotes is refused if it is a control character, or if what follows it is. -/
theorem readPieces_byte_eq_none {rest : List UInt8} (hquote : b ≠ quote) (hbackslash : b ≠ backslash)
    (h : b < 0x20 ∨ readPieces rest = none) : readPieces (b :: rest) = none := by
  rw [readPieces.eq_def]
  show (if b = quote then _ else _) = _
  rw [if_neg hquote, if_neg hbackslash]
  split
  · rfl
  · next hcontrol =>
    rw [h.resolve_left hcontrol]
    rfl

theorem readPieces_escape_eq_none {e : UInt8} {rest : List UInt8} (he : e ≠ 0x75)
    (h : readPieces rest = none) : readPieces (backslash :: e :: rest) = none := by
  rw [readPieces, if_neg (by decide), if_pos rfl, h]
  · cases escapeUnit e <;> rfl
  · intro _ _ _ _ _ heq _
    exact he heq

/-- A string is read back if each of its bytes was spelt in some way. -/
theorem readString_flatMap {spell : UInt8 → List UInt8} {value : List UInt8}
    (hspell : ∀ b ∈ value, Spells (spell b) b) (rest : List UInt8) :
    readString (quote :: (value.flatMap spell ++ quote :: rest)) = some (value, rest) := by
  have hpieces : ∃ pieces, readPieces (value.flatMap spell ++ quote :: rest) = some (pieces, rest) ∧
      pieceBytes pieces = some value := by
    induction value with
    | nil => exact ⟨[], by rw [List.flatMap_nil, List.nil_append, readPieces.eq_def]; rfl, rfl⟩
    | cons b value ih =>
      obtain ⟨pieces, hread, hbytes⟩ := ih fun b' hb' => hspell b' (List.mem_cons_of_mem b hb')
      obtain ⟨piece, hread', hbytes'⟩ := hspell b List.mem_cons_self _ _ _ hread
      refine ⟨piece :: pieces, ?_, ?_⟩
      · rw [List.flatMap_cons, List.append_assoc, hread']
      · rw [hbytes', hbytes, Option.map_some]
  obtain ⟨pieces, hread, hbytes⟩ := hpieces
  rw [readString, if_pos rfl, hread]
  show (pieceBytes pieces).bind _ = _
  rw [hbytes]
  rfl

theorem readString_plain {value : List UInt8} (hplain : value.all isPlain = true)
    (rest : List UInt8) : readString (quote :: (value ++ quote :: rest)) = some (value, rest) := by
  have hread := readString_flatMap
    (fun b hb => spells_plain (List.all_eq_true.mp hplain b hb)) rest
  rwa [List.flatMap_singleton'] at hread

end Strings

/-! ### Reading numbers back -/

section Numbers

theorem NumberState.run_append (state : NumberState) (text text' : List Char) :
    state.run (text ++ text') = (state.run text).bind fun state' => state'.run text' :=
  List.foldlM_append

/-- More digits, in a state that takes them. -/
theorem NumberState.run_digits {state : NumberState}
    (hstay : ∀ c : Char, c.isDigit = true → state.step c = some state) {text : List Char}
    (h : ∀ c ∈ text, c.isDigit = true) : state.run text = some state := by
  induction text with
  | nil => rfl
  | cons c text ih =>
    rw [NumberState.run, List.foldlM_cons, hstay c (h c List.mem_cons_self)]
    exact ih fun c' hc' => h c' (List.mem_cons_of_mem c hc')

theorem NumberState.whole_step {c : Char} (hc : c.isDigit = true) :
    NumberState.whole.step c = some .whole :=
  if_pos hc

theorem NumberState.fraction_step {c : Char} (hc : c.isDigit = true) :
    NumberState.fraction.step c = some .fraction :=
  if_pos hc

/-- Behind the point there is at least one digit. -/
theorem NumberState.run_point {text : List Char} (h : ∀ c ∈ text, c.isDigit = true) :
    NumberState.point.run text = some (if text = [] then .point else .fraction) := by
  cases text with
  | nil => rfl
  | cons c text =>
    have hstep : NumberState.point.step c = some .fraction := if_pos (h c List.mem_cons_self)
    rw [if_neg (List.cons_ne_nil c text), NumberState.run, List.foldlM_cons, hstep]
    exact run_digits (fun _ => fraction_step) fun c' hc' => h c' (List.mem_cons_of_mem c hc')

/-- The point stands behind at least one digit. -/
theorem NumberState.step_point {state : NumberState} (h : state = .zero ∨ state = .whole) :
    state.step '.' = some .point := by
  rcases h with rfl | rfl <;> rfl

/-- A positive number does not begin with a zero. -/
theorem exists_decimal_pos {n : Nat} (hn : 0 < n) :
    ∃ c rest, decimal n = c :: rest ∧ c.isDigit = true ∧ c ≠ '0' := by
  induction n using Nat.strongRecOn with
  | _ n ih =>
    rcases Nat.lt_or_ge n 10 with hsmall | hlarge
    · refine ⟨n.digitChar, [], Nat.toDigits_of_lt_base hsmall, ?_, ?_⟩
      · rw [Nat.isDigit_digitChar]
        exact decide_eq_true hsmall
      · have hdigits : ∀ m : Fin 10, 0 < m.val → Nat.digitChar m.val ≠ '0' := by decide
        exact hdigits ⟨n, hsmall⟩ hn
    · -- without its last digit it is still positive
      obtain ⟨c, rest, hfront, hdigit, hne⟩ :=
        ih (n / 10) (Nat.div_lt_self hn (by decide)) (Nat.div_pos hlarge (by decide))
      refine ⟨c, rest ++ [(n % 10).digitChar], ?_, hdigit, hne⟩
      rw [decimal, Nat.toDigits_of_base_le (by decide) hlarge]
      exact congrArg (· ++ [(n % 10).digitChar]) hfront

/-- The state after some of the digits of a number. -/
theorem NumberState.run_take_decimal {state : NumberState} (hstate : state = .start ∨ state = .minus)
    (n : Nat) {k : Nat} (hk : 0 < k) :
    state.run ((decimal n).take k) = some (if n = 0 then .zero else .whole) := by
  obtain ⟨j, rfl⟩ := Nat.exists_eq_succ_of_ne_zero (Nat.ne_of_gt hk)
  split
  · rename_i hn
    -- the zero alone stands in front of the point
    rw [hn, show decimal 0 = ['0'] from rfl, List.take_succ_cons, List.take_nil]
    rcases hstate with rfl | rfl <;> rfl
  · rename_i hn
    obtain ⟨c, rest, hdecimal, hdigit, hne⟩ := exists_decimal_pos (Nat.pos_of_ne_zero hn)
    have hminus : c ≠ '-' := by
      rintro rfl
      exact absurd hdigit (by decide)
    -- the first digit decides, the others stay
    have hstep : state.step c = some .whole := by
      rcases hstate with rfl | rfl
      · exact (if_neg hminus).trans ((if_neg hne).trans (if_pos hdigit))
      · exact (if_neg hne).trans (if_pos hdigit)
    have hrest : ∀ c' ∈ rest.take j, c'.isDigit = true := by
      intro c' hc'
      have hmem : c' ∈ decimal n := by
        rw [hdecimal]
        exact List.mem_cons_of_mem c (List.mem_of_mem_take hc')
      exact isDigit_of_mem_decimal hmem
    rw [hdecimal, List.take_succ_cons, NumberState.run, List.foldlM_cons, hstep]
    exact run_digits (fun _ => whole_step) hrest

theorem NumberState.run_decimal {state : NumberState} (hstate : state = .start ∨ state = .minus)
    (n : Nat) : state.run (decimal n) = some (if n = 0 then .zero else .whole) := by
  have hrun := run_take_decimal hstate n (List.length_pos_of_ne_nil
    (Nat.toDigits_ne_nil (n := n) (b := 10)))
  rwa [show (decimal n).take (Nat.toDigits 10 n).length = decimal n from List.take_length] at hrun

theorem isNumber_decimal (n : Nat) : isNumber (decimal n) = true := by
  rw [isNumber, NumberState.run_decimal (.inl rfl)]
  split <;> rfl

theorem isNumber_integer (z : Int) : isNumber (integer z) = true := by
  unfold integer
  split
  · have hminus : NumberState.start.step '-' = some .minus := rfl
    rw [isNumber, NumberState.run, List.foldlM_cons, hminus]
    show ((NumberState.minus.run (decimal z.natAbs)).any _) = true
    rw [NumberState.run_decimal (.inr rfl)]
    split <;> rfl
  · exact isNumber_decimal z.natAbs

/-- The character is one that a number is written with. -/
def IsNumeric (c : Char) : Prop :=
  c.toNat < 128 ∧ (c.isDigit || c ∈ ['-', '+', '.', 'e', 'E']) = true

theorem isNumeric_of_isDigit {c : Char} (h : c.isDigit = true) : IsNumeric c := by
  refine ⟨?_, by rw [h, Bool.true_or]⟩
  simp only [Char.isDigit, Bool.and_eq_true, decide_eq_true_eq] at h
  have hle : c.toNat ≤ 57 := h.2
  omega

theorem isNumeric_of_mem_decimal {n : Nat} {c : Char} (h : c ∈ decimal n) : IsNumeric c :=
  isNumeric_of_isDigit (isDigit_of_mem_decimal h)

theorem isNumeric_of_mem_integer {z : Int} {c : Char} (h : c ∈ integer z) : IsNumeric c := by
  unfold integer at h
  split at h
  · rcases List.mem_cons.mp h with rfl | hdigit
    · exact ⟨by decide, by decide⟩
    · exact isNumeric_of_mem_decimal hdigit
  · exact isNumeric_of_mem_decimal h

/-- A number is read up to what cannot belong to it, if it is one. -/
theorem readNumber_append {text : List Char} (hnumeric : ∀ c ∈ text, IsNumeric c) {b : UInt8}
    (hb : isNumeric b = false) (rest : List UInt8) :
    readNumber (ascii text ++ b :: rest) =
      if isNumber text then some (text, b :: rest) else none := by
  have htaken : ∀ b' ∈ ascii text, isNumeric b' = true := by
    intro b' hb'
    obtain ⟨c, hc, rfl⟩ := List.mem_map.mp hb'
    rw [isNumeric, toChar_toUInt8 (hnumeric c hc).1]
    exact (hnumeric c hc).2
  -- the bytes taken are the characters again
  have hback : (ascii text).map toChar = text := by
    rw [ascii, List.map_map]
    exact (List.map_congr_left fun c hc => toChar_toUInt8 (hnumeric c hc).1).trans (List.map_id text)
  have htake : (ascii text ++ b :: rest).takeWhile isNumeric = ascii text := by
    rw [List.takeWhile_append_of_pos htaken, List.takeWhile_cons_of_neg (by rw [hb]; decide),
      List.append_nil]
  have hdrop : (ascii text ++ b :: rest).dropWhile isNumeric = b :: rest := by
    rw [List.dropWhile_append_of_pos htaken, List.dropWhile_cons_of_neg (by rw [hb]; decide)]
  rw [readNumber, htake, hdrop, hback]

end Numbers

/-! ### Reading objects back -/

section Objects

/-- The text is read as the value, whether a member follows or the end of the object. -/
def Writes (text : List UInt8) (value : Value) : Prop :=
  ∀ {b : UInt8} (rest : List UInt8), b = comma ∨ b = closeBrace →
    readValue (text ++ b :: rest) = some (value, b :: rest)

theorem writes_string {text content : List UInt8}
    (h : ∀ rest, readString (text ++ rest) = some (content, rest)) :
    Writes text (.string content) := by
  intro b rest _
  rw [readValue, h (b :: rest)]
  rfl

/-- A byte that ends a member does not belong to a number. -/
theorem isNumeric_end {b : UInt8} (hb : b = comma ∨ b = closeBrace) : isNumeric b = false := by
  rcases hb with rfl | rfl <;> decide

/-- A text of numeric characters does not begin with another byte. -/
theorem head_ne_of_isNumeric {c : Char} (hc : IsNumeric c) {b : UInt8} (hb : isNumeric b = false) :
    c.toUInt8 ≠ b := by
  rintro rfl
  rw [isNumeric, toChar_toUInt8 hc.1, hc.2] at hb
  cases hb

theorem readString_number {text : List Char} (hnumeric : ∀ c ∈ text, IsNumeric c)
    (hne : text ≠ []) (rest : List UInt8) : readString (ascii text ++ rest) = none := by
  obtain ⟨c, text, rfl⟩ := List.exists_cons_of_ne_nil hne
  exact if_neg (head_ne_of_isNumeric (hnumeric c List.mem_cons_self) (by decide))

theorem writes_number {text : List Char} (hnumeric : ∀ c ∈ text, IsNumeric c)
    (hnumber : isNumber text = true) : Writes (ascii text) (.number text) := by
  have hne : text ≠ [] := by
    rintro rfl
    exact absurd hnumber (by decide)
  intro b rest hb
  rw [readValue, readString_number hnumeric hne, readNumber_append hnumeric (isNumeric_end hb),
    if_pos hnumber]
  rfl

/-- What looks like a number and is none is no value. -/
theorem readValue_eq_none {text : List Char} (hnumeric : ∀ c ∈ text, IsNumeric c) (hne : text ≠ [])
    (hnumber : isNumber text = false) {b : UInt8} (hb : b = comma ∨ b = closeBrace)
    (rest : List UInt8) : readValue (ascii text ++ b :: rest) = none := by
  -- no word begins like a number
  have hword : ∀ {first : Char} {word : List Char} {value : Value},
      isNumeric first.toUInt8 = false →
        readWord (first :: word) value (ascii text ++ b :: rest) = none := by
    intro first word value hfirst
    obtain ⟨c, more, rfl⟩ := List.exists_cons_of_ne_nil hne
    refine if_neg fun hprefix => ?_
    have hhead := (List.cons_prefix_cons.mp hprefix).1
    exact head_ne_of_isNumeric (hnumeric c List.mem_cons_self) hfirst hhead.symm
  rw [readValue, readString_number hnumeric hne, readNumber_append hnumeric (isNumeric_end hb),
    hnumber, hword (by decide), hword (by decide), hword (by decide)]
  rfl

/-- A member as it is written. -/
structure Field where
  name : List Char
  isPlain_name : (ascii name).all isPlain = true
  text : List UInt8
  value : Value
  writes : Writes text value

def Field.member (field : Field) : Member :=
  (ascii field.name, field.value)

def Field.fieldText (field : Field) : List UInt8 :=
  quote :: (ascii field.name ++ quote :: colon :: field.text)

def fieldsText : List Field → List UInt8
  | [] => []
  | [field] => field.fieldText
  | field :: fields => field.fieldText ++ comma :: fieldsText fields

def objectText (fields : List Field) : List UInt8 :=
  openBrace :: (fieldsText fields ++ [closeBrace])

theorem readMember_fieldText (field : Field) {b : UInt8} (rest : List UInt8)
    (hb : b = comma ∨ b = closeBrace) :
    readMember (field.fieldText ++ b :: rest) = some (field.member, b :: rest) := by
  have hname := readString_plain field.isPlain_name (colon :: (field.text ++ b :: rest))
  have htext : field.fieldText ++ b :: rest =
      quote :: (ascii field.name ++ quote :: colon :: (field.text ++ b :: rest)) := by
    rw [Field.fieldText, List.cons_append, List.append_assoc]
    rfl
  rw [htext, readMember, hname]
  show (readValue (field.text ++ b :: rest)).bind _ = _
  rw [field.writes rest hb]
  rfl

/-- With one more field behind them, every field is followed by a comma. -/
theorem fieldsText_concat (fields : List Field) (field : Field) :
    fieldsText (fields ++ [field]) =
      fields.flatMap (fun field => field.fieldText ++ [comma]) ++ field.fieldText := by
  induction fields with
  | nil => rfl
  | cons first fields ih =>
    -- it is not the last one, so a comma follows
    have hcons : fieldsText (first :: (fields ++ [field])) =
        first.fieldText ++ comma :: fieldsText (fields ++ [field]) := by
      rw [fieldsText]
      exact fun h => List.append_ne_nil_of_right_ne_nil fields (List.cons_ne_nil field []) h
    rw [List.cons_append, hcons, ih, List.flatMap_cons, List.append_assoc, List.append_assoc]
    rfl

theorem length_fieldsText (fields : List Field) : fields.length ≤ (fieldsText fields).length := by
  induction fields using fieldsText.induct with
  | case1 => exact Nat.le_refl 0
  | case2 field => exact Nat.succ_le_succ (Nat.zero_le _)
  | case3 field fields hne ih =>
    rw [fieldsText]
    · rw [List.length_append, List.length_cons, List.length_cons]
      omega
    · exact hne

theorem readMembers_fieldsText {fields : List Field} (hne : fields ≠ []) {bound : Nat}
    (hbound : fields.length ≤ bound) (rest : List UInt8) :
    readMembers bound (fieldsText fields ++ closeBrace :: rest) =
      some (fields.map Field.member, rest) := by
  induction fields using fieldsText.induct generalizing bound with
  | case1 => exact absurd rfl hne
  | case2 field =>
    obtain ⟨bound, rfl⟩ := Nat.exists_eq_succ_of_ne_zero (Nat.pos_iff_ne_zero.mp hbound)
    rw [fieldsText, readMembers, readMember_fieldText field rest (.inr rfl)]
    rfl
  | case3 field fields hmore ih =>
    obtain ⟨bound, rfl⟩ := Nat.exists_eq_succ_of_ne_zero
      (Nat.pos_iff_ne_zero.mp (Nat.lt_of_lt_of_le (Nat.succ_pos _) hbound))
    -- there is one more field, and the bound leaves room for it
    have hfields : fields ≠ [] := fun h => hmore h
    rw [fieldsText, List.append_assoc, readMembers, List.cons_append,
      readMember_fieldText field _ (.inl rfl)]
    · show (readMembers bound (fieldsText fields ++ closeBrace :: rest)).bind _ = _
      rw [ih hfields (Nat.le_of_succ_le_succ hbound)]
      rfl
    · exact hmore

/-- What was written as an object is read as its members. -/
theorem decode_objectText {fields : List Field} (hne : fields ≠ []) :
    decode (objectText fields) = some (fields.map Field.member) := by
  have hread := readMembers_fieldsText hne
    (show fields.length ≤ (fieldsText fields ++ [closeBrace]).length by
      rw [List.length_append]
      exact Nat.le_add_right_of_le (length_fieldsText fields)) []
  -- a member begins with a quote, so the object is not empty
  have hhead : (fieldsText fields ++ [closeBrace]).head? = some quote := by
    match fields, hne with
    | [field], _ => rfl
    | field :: _ :: _, _ => rfl
  have hobject : readObject (objectText fields) = some (fields.map Field.member, []) := by
    rw [objectText, readObject, if_pos rfl, if_neg (by rw [hhead]; decide), hread]
  rw [decode, hobject]

/-- After a member that cannot be read there is no object. -/
theorem readMembers_eq_none {text : List UInt8} (h : readMember text = none) (fields : List Field)
    (bound : Nat) :
    readMembers bound (fields.flatMap (fun field => field.fieldText ++ [comma]) ++ text) = none := by
  induction fields generalizing bound with
  | nil =>
    match bound with
    | 0 => rfl
    | bound + 1 => rw [List.flatMap_nil, List.nil_append, readMembers, h]; rfl
  | cons field fields ih =>
    match bound with
    | 0 => rfl
    | bound + 1 =>
      rw [List.flatMap_cons, List.append_assoc, List.append_assoc, List.singleton_append,
        readMembers, readMember_fieldText field _ (.inl rfl)]
      show (readMembers bound _).bind _ = _
      rw [ih bound]
      rfl

theorem decode_eq_none {text : List UInt8} (h : readMember (text ++ [closeBrace]) = none)
    {fields : List Field} (hne : fields ≠ []) :
    decode (openBrace :: (fields.flatMap (fun field => field.fieldText ++ [comma]) ++ text ++
      [closeBrace])) = none := by
  obtain ⟨field, fields, rfl⟩ := List.exists_cons_of_ne_nil hne
  have hobject : readObject (openBrace :: ((field :: fields).flatMap
      (fun field => field.fieldText ++ [comma]) ++ text ++ [closeBrace])) = none := by
    rw [readObject, if_pos rfl, List.append_assoc, readMembers_eq_none h]
    have hquote : ((field :: fields).flatMap (fun field => field.fieldText ++ [comma]) ++
        (text ++ [closeBrace])).head? = some quote := rfl
    rw [hquote]
    exact if_neg (by decide)
  rw [decode, hobject]

theorem ne_newline_of_isPlain {b : UInt8} (h : isPlain b = true) : b ≠ newline := by
  rintro rfl
  exact absurd h (by decide)

theorem newline_notMem_fieldText {field : Field} (h : newline ∉ field.text) :
    newline ∉ field.fieldText := by
  intro hmem
  rcases List.mem_cons.mp hmem with hquote | hmem
  · exact absurd hquote (by decide)
  rcases List.mem_append.mp hmem with hname | hmem
  · exact ne_newline_of_isPlain (List.all_eq_true.mp field.isPlain_name _ hname) rfl
  rcases List.mem_cons.mp hmem with hquote | hmem
  · exact absurd hquote (by decide)
  rcases List.mem_cons.mp hmem with hcolon | htext
  · exact absurd hcolon (by decide)
  · exact h htext

theorem newline_notMem_objectText {fields : List Field} (h : ∀ field ∈ fields, newline ∉ field.text) :
    newline ∉ objectText fields := by
  have hfields : newline ∉ fieldsText fields := by
    induction fields using fieldsText.induct with
    | case1 => exact List.not_mem_nil
    | case2 field => exact newline_notMem_fieldText (h field List.mem_cons_self)
    | case3 field fields hmore ih =>
      rw [fieldsText]
      · intro hmem
        rcases List.mem_append.mp hmem with hfield | hmem
        · exact newline_notMem_fieldText (h field List.mem_cons_self) hfield
        rcases List.mem_cons.mp hmem with hcomma | hfields
        · exact absurd hcomma (by decide)
        · exact ih (fun field' hfield' => h field' (List.mem_cons_of_mem field hfield')) hfields
      · exact hmore
  intro hmem
  rcases List.mem_cons.mp hmem with hbrace | hmem
  · exact absurd hbrace (by decide)
  rcases List.mem_append.mp hmem with hmem | hbrace
  · exact hfields hmem
  · exact absurd (List.mem_singleton.mp hbrace) (by decide)

theorem newline_notMem_ascii {text : List Char} (h : ∀ c ∈ text, IsNumeric c) :
    newline ∉ ascii text := by
  intro hmem
  obtain ⟨c, hc, heq⟩ := List.mem_map.mp hmem
  exact head_ne_of_isNumeric (h c hc) (by decide) heq

end Objects

/-! ### Reading lines back -/

theorem lines_append {line rest : List UInt8} (hline : newline ∉ line) :
    lines (line ++ newline :: rest) = line :: lines rest := by
  induction line with
  | nil => rw [List.nil_append, lines, if_pos rfl]
  | cons b line ih =>
    obtain ⟨hb, hline⟩ := not_or.mp (fun h => hline (List.mem_cons.mpr h))
    rw [List.cons_append, lines, if_neg (Ne.symm hb), ih hline]

/-- The lines of what was written line by line. -/
theorem lines_flatMap {written : List (List UInt8)} (h : ∀ line ∈ written, newline ∉ line) :
    lines (written.flatMap (· ++ [newline])) = written := by
  induction written with
  | nil => rfl
  | cons line written ih =>
    rw [List.flatMap_cons, List.append_assoc, List.singleton_append,
      lines_append (h line List.mem_cons_self), ih fun l hl => h l (List.mem_cons_of_mem line hl)]

end JsonLine
