import OdsMod2.Framework.JsonLine

/-!
# JSON texts

The whole of JSON: values may be nested, and white space may stand between any two tokens. `tokens`
takes a text of bytes apart, `parse` puts the value together, and `decode` is both. Strings, numbers and
words are read as `JsonLine` reads them.

`parse_tokens` reads back the tokens of a value, whatever it is. For the texts of a program that writes
its values piece by piece, a `Part` is a piece that a reader goes through, or at which it gives up, and
parts are joined to a part: a text is read exactly if all of its parts are (`Part.decode_text_iff`).
-/

namespace JsonText

open JsonLine

/-! ### Tokens -/

def openBracket : UInt8 := 0x5B

def closeBracket : UInt8 := 0x5D

inductive Token where
  | openBrace
  | closeBrace
  | openBracket
  | closeBracket
  | comma
  | colon
  | scalar (value : Value)
  deriving DecidableEq

/-- The byte may stand between two tokens. -/
def isBlank (b : UInt8) : Bool :=
  b = 0x20 || b = 0x09 || b = 0x0A || b = 0x0D

/-- The token that the byte alone is. -/
def mark? (b : UInt8) : Option Token :=
  if b = JsonLine.openBrace then some .openBrace
  else if b = JsonLine.closeBrace then some .closeBrace
  else if b = openBracket then some .openBracket
  else if b = closeBracket then some .closeBracket
  else if b = JsonLine.comma then some .comma
  else if b = JsonLine.colon then some .colon
  else none

/-- The tokens of a text, in at most so many steps. -/
def tokensWithin : Nat → List UInt8 → Option (List Token)
  | _, [] => some []
  | 0, _ :: _ => none
  | bound + 1, b :: rest =>
    if isBlank b then tokensWithin bound rest
    else
      match mark? b with
      | some token => (tokensWithin bound rest).map (token :: ·)
      | none => do
        let (value, rest) ← readValue (b :: rest)
        let tokens ← tokensWithin bound rest
        some (.scalar value :: tokens)

/-- Each step takes a byte at least. -/
def tokens (text : List UInt8) : Option (List Token) :=
  tokensWithin text.length text

/-! ### Values -/

inductive Json where
  | scalar (value : Value)
  | array (items : List Json)
  | object (members : List (List UInt8 × Json))

mutual

/-- A value and what follows it. -/
def readJson : Nat → List Token → Option (Json × List Token)
  | _ + 1, .scalar value :: rest => some (.scalar value, rest)
  | bound + 1, .openBracket :: rest =>
    if rest.head? = some .closeBracket then some (.array [], rest.tail)
    else do
      let (item, rest) ← readJson bound rest
      let (items, rest) ← readMoreItems bound rest
      some (.array (item :: items), rest)
  | bound + 1, .openBrace :: rest =>
    if rest.head? = some .closeBrace then some (.object [], rest.tail)
    else do
      let (member, rest) ← readMember bound rest
      let (members, rest) ← readMoreMembers bound rest
      some (.object (member :: members), rest)
  | _, _ => none

/-- The items behind one that has been read, up to the closing bracket. -/
def readMoreItems : Nat → List Token → Option (List Json × List Token)
  | _ + 1, .closeBracket :: rest => some ([], rest)
  | bound + 1, .comma :: rest => do
    let (item, rest) ← readJson bound rest
    let (items, rest) ← readMoreItems bound rest
    some (item :: items, rest)
  | _, _ => none

def readMember : Nat → List Token → Option ((List UInt8 × Json) × List Token)
  | bound + 1, .scalar (.string name) :: .colon :: rest => do
    let (value, rest) ← readJson bound rest
    some ((name, value), rest)
  | _, _ => none

/-- The members behind one that has been read, up to the closing brace. -/
def readMoreMembers : Nat → List Token → Option (List (List UInt8 × Json) × List Token)
  | _ + 1, .closeBrace :: rest => some ([], rest)
  | bound + 1, .comma :: rest => do
    let (member, rest) ← readMember bound rest
    let (members, rest) ← readMoreMembers bound rest
    some (member :: members, rest)
  | _, _ => none

end

/-- The value that the tokens are. -/
def parse (tokens : List Token) : Option Json :=
  match readJson tokens.length tokens with
  | some (json, []) => some json
  | _ => none

/-- The value that the text is. -/
def decode (text : List UInt8) : Option Json :=
  (tokens text).bind parse

/-! ### The tokens of a value -/

mutual

def Json.tokens : Json → List Token
  | .scalar value => [.scalar value]
  | .array [] => [.openBracket, .closeBracket]
  | .array (item :: items) => .openBracket :: (item.tokens ++ moreItems items)
  | .object [] => [.openBrace, .closeBrace]
  | .object (member :: members) => .openBrace :: (memberTokens member ++ moreMembers members)

/-- The items behind the first one. -/
def moreItems : List Json → List Token
  | [] => [.closeBracket]
  | item :: items => .comma :: (item.tokens ++ moreItems items)

def memberTokens : List UInt8 × Json → List Token
  | (name, value) => .scalar (.string name) :: .colon :: value.tokens

/-- The members behind the first one. -/
def moreMembers : List (List UInt8 × Json) → List Token
  | [] => [.closeBrace]
  | member :: members => .comma :: (memberTokens member ++ moreMembers members)

end

/-- A value does not begin with what ends one. -/
theorem head?_tokens_append (json : Json) (rest : List Token) :
    (json.tokens ++ rest).head? ≠ some .closeBracket := by
  match json with
  | .scalar value => simp [Json.tokens]
  | .array [] => simp [Json.tokens]
  | .array (item :: items) => simp [Json.tokens]
  | .object [] => simp [Json.tokens]
  | .object (member :: members) => simp [Json.tokens]

theorem head?_memberTokens_append (member : List UInt8 × Json) (rest : List Token) :
    (memberTokens member ++ rest).head? ≠ some .closeBrace := by
  obtain ⟨name, value⟩ := member
  simp [memberTokens]

/-- Within the bound, everything is read back in front of anything. -/
structure ReadsBack (bound : Nat) : Prop where
  json : ∀ (json : Json) (rest : List Token), json.tokens.length ≤ bound →
    readJson bound (json.tokens ++ rest) = some (json, rest)
  moreItems : ∀ (items : List Json) (rest : List Token), (moreItems items).length ≤ bound →
    readMoreItems bound (moreItems items ++ rest) = some (items, rest)
  member : ∀ (member : List UInt8 × Json) (rest : List Token),
    (memberTokens member).length ≤ bound →
      readMember bound (memberTokens member ++ rest) = some (member, rest)
  moreMembers : ∀ (members : List (List UInt8 × Json)) (rest : List Token),
    (moreMembers members).length ≤ bound →
      readMoreMembers bound (moreMembers members ++ rest) = some (members, rest)

section

variable {bound : Nat}

theorem ReadsBack.readJson_succ (h : ReadsBack bound) (json : Json) (rest : List Token)
    (hbound : json.tokens.length ≤ bound + 1) :
    readJson (bound + 1) (json.tokens ++ rest) = some (json, rest) := by
  match json with
  | .scalar value => rw [Json.tokens, List.singleton_append, readJson]
  | .array [] => rfl
  | .array (item :: items) =>
    rw [Json.tokens, List.length_cons, List.length_append] at hbound
    rw [Json.tokens, List.cons_append, List.append_assoc, readJson,
      if_neg (head?_tokens_append item _), h.json item _ (by omega)]
    show (readMoreItems bound (JsonText.moreItems items ++ rest)).bind _ = _
    rw [h.moreItems items rest (by omega)]
    rfl
  | .object [] => rfl
  | .object (member :: members) =>
    rw [Json.tokens, List.length_cons, List.length_append] at hbound
    rw [Json.tokens, List.cons_append, List.append_assoc, readJson,
      if_neg (head?_memberTokens_append member _), h.member member _ (by omega)]
    show (readMoreMembers bound (JsonText.moreMembers members ++ rest)).bind _ = _
    rw [h.moreMembers members rest (by omega)]
    rfl

theorem ReadsBack.readMoreItems_succ (h : ReadsBack bound) (items : List Json)
    (rest : List Token) (hbound : (JsonText.moreItems items).length ≤ bound + 1) :
    readMoreItems (bound + 1) (JsonText.moreItems items ++ rest) = some (items, rest) := by
  match items with
  | [] => rfl
  | item :: items =>
    rw [JsonText.moreItems, List.length_cons, List.length_append] at hbound
    rw [JsonText.moreItems, List.cons_append, List.append_assoc, readMoreItems,
      h.json item _ (by omega)]
    show (readMoreItems bound (JsonText.moreItems items ++ rest)).bind _ = _
    rw [h.moreItems items rest (by omega)]
    rfl

theorem ReadsBack.readMember_succ (h : ReadsBack bound) (member : List UInt8 × Json)
    (rest : List Token) (hbound : (memberTokens member).length ≤ bound + 1) :
    readMember (bound + 1) (memberTokens member ++ rest) = some (member, rest) := by
  obtain ⟨name, value⟩ := member
  rw [memberTokens, List.length_cons, List.length_cons] at hbound
  rw [memberTokens, List.cons_append, List.cons_append, readMember, h.json value rest (by omega)]
  rfl

theorem ReadsBack.readMoreMembers_succ (h : ReadsBack bound)
    (members : List (List UInt8 × Json)) (rest : List Token)
    (hbound : (JsonText.moreMembers members).length ≤ bound + 1) :
    readMoreMembers (bound + 1) (JsonText.moreMembers members ++ rest) =
      some (members, rest) := by
  match members with
  | [] => rfl
  | member :: members =>
    rw [JsonText.moreMembers, List.length_cons, List.length_append] at hbound
    rw [JsonText.moreMembers, List.cons_append, List.append_assoc, readMoreMembers,
      h.member member _ (by omega)]
    show (readMoreMembers bound (JsonText.moreMembers members ++ rest)).bind _ = _
    rw [h.moreMembers members rest (by omega)]
    rfl

end

theorem readsBack (bound : Nat) : ReadsBack bound := by
  induction bound with
  | zero =>
    -- nothing is written with no token at all
    refine ⟨?_, ?_, ?_, ?_⟩
    · intro json rest hbound
      match json with
      | .scalar value => simp [Json.tokens] at hbound
      | .array [] => simp [Json.tokens] at hbound
      | .array (item :: items) => simp [Json.tokens] at hbound
      | .object [] => simp [Json.tokens] at hbound
      | .object (member :: members) => simp [Json.tokens] at hbound
    · intro items rest hbound
      cases items <;> simp [moreItems] at hbound
    · rintro ⟨name, value⟩ rest hbound
      simp [memberTokens] at hbound
    · intro members rest hbound
      cases members <;> simp [moreMembers] at hbound
  | succ bound ih =>
    exact ⟨ih.readJson_succ, ih.readMoreItems_succ, ih.readMember_succ, ih.readMoreMembers_succ⟩

/-- **The tokens of a value are read back as the value.** -/
theorem parse_tokens (json : Json) : parse json.tokens = some json := by
  have hread := (readsBack json.tokens.length).json json [] (Nat.le_refl _)
  rw [List.append_nil] at hread
  rw [parse, hread]

/-! ### Pieces of a text -/

/-- A reader finds these tokens in the text, whatever follows it. -/
def Reads (text : List UInt8) (found : List Token) : Prop :=
  ∃ steps ≤ text.length, ∀ (bound : Nat) (rest : List UInt8),
    tokensWithin (bound + steps) (text ++ rest) = (tokensWithin bound rest).map (found ++ ·)

/-- A reader gives up within the text. -/
def Refuses (text : List UInt8) : Prop :=
  ∀ (bound : Nat) (rest : List UInt8), tokensWithin bound (text ++ rest) = none

section

variable {text text' : List UInt8} {found found' : List Token}

theorem reads_nil : Reads [] [] :=
  ⟨0, Nat.le_refl 0, fun bound rest => by simp⟩

theorem Reads.append (h : Reads text found) (h' : Reads text' found') :
    Reads (text ++ text') (found ++ found') := by
  obtain ⟨steps, hle, hread⟩ := h
  obtain ⟨steps', hle', hread'⟩ := h'
  refine ⟨steps' + steps, ?_, fun bound rest => ?_⟩
  · rw [List.length_append]
    omega
  · calc tokensWithin (bound + (steps' + steps)) (text ++ text' ++ rest)
        = (tokensWithin (bound + steps') (text' ++ rest)).map (found ++ ·) := by
          rw [← Nat.add_assoc, List.append_assoc, hread]
      _ = (tokensWithin bound rest).map (found ++ found' ++ ·) := by
          rw [hread', Option.map_map]
          simp only [Function.comp_def, List.append_assoc]

theorem Reads.tokens_eq (h : Reads text found) : tokens text = some found := by
  obtain ⟨steps, hle, hread⟩ := h
  have hall := hread (text.length - steps) []
  rw [List.append_nil, Nat.sub_add_cancel hle] at hall
  rw [tokens, hall]
  cases text.length - steps <;> simp [tokensWithin]

/-- More steps do no harm. -/
theorem tokensWithin_succ {bound : Nat} (h : tokensWithin bound text = some found) :
    tokensWithin (bound + 1) text = some found := by
  induction bound generalizing text found with
  | zero =>
    match text with
    | [] => exact h
    | _ :: _ => cases h
  | succ bound ih =>
    match text with
    | [] => exact h
    | b :: rest =>
      rw [tokensWithin] at h ⊢
      split
      · next hblank =>
        rw [if_pos hblank] at h
        exact ih h
      · next hblank =>
        rw [if_neg hblank] at h
        cases hmark : mark? b with
        | some token =>
          rw [hmark] at h
          obtain ⟨more, hmore, rfl⟩ := Option.map_eq_some_iff.mp h
          show (tokensWithin (bound + 1) rest).map _ = _
          rw [ih hmore]
          rfl
        | none =>
          rw [hmark] at h
          obtain ⟨⟨value, after⟩, hvalue, h⟩ := Option.bind_eq_some_iff.mp h
          obtain ⟨more, hmore, h⟩ := Option.bind_eq_some_iff.mp h
          show (readValue (b :: rest)).bind _ = _
          rw [hvalue, Option.bind_some]
          show (tokensWithin (bound + 1) after).bind _ = _
          rw [ih hmore]
          exact h

theorem tokensWithin_add {bound : Nat} (steps : Nat) (h : tokensWithin bound text = some found) :
    tokensWithin (bound + steps) text = some found := by
  induction steps with
  | zero => exact h
  | succ steps ih => exact tokensWithin_succ ih

/-- Behind a piece that is read, the reader gives up as soon as it would have alone. -/
theorem Reads.refuses_append (h : Reads text found) (h' : Refuses text') :
    Refuses (text ++ text') := by
  obtain ⟨steps, -, hread⟩ := h
  intro bound rest
  -- with as many steps as the piece takes there is no token behind it
  have hnone : tokensWithin (bound + steps) (text ++ text' ++ rest) = none := by
    rw [List.append_assoc, hread, h' bound rest, Option.map_none]
  by_contra hsome
  obtain ⟨found, hfound⟩ := Option.ne_none_iff_exists'.mp hsome
  rw [tokensWithin_add steps hfound] at hnone
  cases hnone

theorem Refuses.append (h : Refuses text) (text' : List UInt8) : Refuses (text ++ text') := by
  intro bound rest
  rw [List.append_assoc]
  exact h bound (text' ++ rest)

theorem Refuses.decode_eq (h : Refuses text) : decode text = none := by
  have hnone := h text.length []
  rw [List.append_nil] at hnone
  rw [decode, tokens, hnone]
  rfl

/-- White space. -/
theorem reads_blank (hblank : text.all isBlank = true) : Reads text [] := by
  refine ⟨text.length, Nat.le_refl _, fun bound rest => ?_⟩
  induction text with
  | nil => simp
  | cons b text ih =>
    obtain ⟨hb, htext⟩ := Bool.and_eq_true_iff.mp hblank
    show tokensWithin (bound + text.length + 1) (b :: (text ++ rest)) = _
    rw [tokensWithin, if_pos hb]
    exact ih htext

theorem mark?_of_isBlank {b : UInt8} (hblank : isBlank b = true) : mark? b = none := by
  simp only [isBlank, Bool.or_eq_true, decide_eq_true_eq] at hblank
  rcases hblank with ((rfl | rfl) | rfl) | rfl
  all_goals decide

/-- A mark. -/
theorem reads_mark {b : UInt8} {token : Token} (hmark : mark? b = some token) :
    Reads [b] [token] := by
  have hblank : ¬ isBlank b = true := by
    intro hblank
    rw [mark?_of_isBlank hblank] at hmark
    cases hmark
  refine ⟨1, Nat.le_refl _, fun bound rest => ?_⟩
  show tokensWithin (bound + 1) (b :: rest) = _
  rw [tokensWithin, if_neg hblank, hmark]
  rfl

/-- The byte is neither white space nor a mark, so that a scalar begins with it. -/
def beginsScalar (b : UInt8) : Bool :=
  !isBlank b && (mark? b).isNone

theorem beginsScalar_iff {b : UInt8} :
    beginsScalar b = true ↔ ¬ isBlank b = true ∧ mark? b = none := by
  simp [beginsScalar]

theorem tokensWithin_scalar {b : UInt8} (hb : beginsScalar b = true) {value : Value}
    {rest : List UInt8} (hvalue : readValue (b :: text) = some (value, rest)) (bound : Nat) :
    tokensWithin (bound + 1) (b :: text) = (tokensWithin bound rest).map (.scalar value :: ·) := by
  obtain ⟨hblank, hmark⟩ := beginsScalar_iff.mp hb
  rw [tokensWithin, if_neg hblank, hmark]
  show (readValue (b :: text)).bind _ = _
  rw [hvalue, Option.bind_some]
  show (tokensWithin bound rest).bind _ = _
  cases tokensWithin bound rest <;> rfl

/-- A scalar that can be told from whatever follows it. -/
theorem reads_scalar {b : UInt8} (hb : beginsScalar b = true) {value : Value}
    (hvalue : ∀ rest, readValue (b :: (text ++ rest)) = some (value, rest)) :
    Reads (b :: text) [.scalar value] := by
  refine ⟨1, ?_, fun bound rest => ?_⟩
  · exact Nat.succ_le_succ (Nat.zero_le _)
  · show tokensWithin (bound + 1) (b :: (text ++ rest)) = _
    rw [tokensWithin_scalar hb (hvalue rest)]
    rfl

theorem refuses_scalar {b : UInt8} (hb : beginsScalar b = true)
    (hvalue : ∀ rest, readValue (b :: (text ++ rest)) = none) : Refuses (b :: text) := by
  obtain ⟨hblank, hmark⟩ := beginsScalar_iff.mp hb
  intro bound rest
  match bound with
  | 0 => rfl
  | bound + 1 =>
    show tokensWithin (bound + 1) (b :: (text ++ rest)) = _
    rw [tokensWithin, if_neg hblank, hmark]
    show (readValue (b :: (text ++ rest))).bind _ = _
    rw [hvalue rest]
    rfl

theorem reads_string {body value : List UInt8}
    (h : ∀ rest, readString (quote :: (body ++ quote :: rest)) = some (value, rest)) :
    Reads (quote :: (body ++ [quote])) [.scalar (.string value)] := by
  refine reads_scalar (by decide) fun rest => ?_
  rw [List.append_assoc, List.singleton_append, readValue, h rest]
  rfl

theorem refuses_string {body : List UInt8}
    (h : ∀ rest, readString (quote :: (body ++ quote :: rest)) = none) :
    Refuses (quote :: (body ++ [quote])) := by
  refine refuses_scalar (by decide) fun rest => ?_
  rw [List.append_assoc, List.singleton_append, readValue, h rest]
  -- neither a number nor a word begins with a quote
  rfl

theorem reads_true : Reads (ascii ['t', 'r', 'u', 'e']) [.scalar .true] :=
  reads_scalar (by decide) fun _ => rfl

theorem reads_false : Reads (ascii ['f', 'a', 'l', 's', 'e']) [.scalar .false] :=
  reads_scalar (by decide) fun _ => rfl

theorem beginsScalar_of_isNumeric {c : Char} (hc : IsNumeric c) :
    beginsScalar c.toUInt8 = true := by
  have hne : ∀ {b : UInt8}, JsonLine.isNumeric b = false → c.toUInt8 ≠ b :=
    fun hb => head_ne_of_isNumeric hc hb
  rw [beginsScalar_iff]
  constructor
  · simp only [isBlank, Bool.or_eq_true, decide_eq_true_eq]
    rintro (((h | h) | h) | h)
    all_goals exact hne (by decide) h
  · unfold mark?
    rw [if_neg (hne (by decide)), if_neg (hne (by decide)), if_neg (hne (by decide)),
      if_neg (hne (by decide)), if_neg (hne (by decide)), if_neg (hne (by decide))]

/-- A number, with what ends it. -/
theorem reads_number {digits : List Char} (hnumeric : ∀ c ∈ digits, IsNumeric c)
    (hnumber : isNumber digits = true) {stop : UInt8} (hstop : isNumeric stop = false)
    {ending : List UInt8} (hfound : Reads (stop :: ending) found) :
    Reads (ascii digits ++ stop :: ending) (.scalar (.number digits) :: found) := by
  obtain ⟨steps, hle, hread⟩ := hfound
  have hne : digits ≠ [] := by
    rintro rfl
    exact absurd hnumber (by decide)
  obtain ⟨c, digits, rfl⟩ := List.exists_cons_of_ne_nil hne
  have hlength : (stop :: ending).length + 1 ≤ (ascii (c :: digits) ++ stop :: ending).length := by
    rw [List.length_append, ascii, List.length_map, List.length_cons (a := c)]
    omega
  refine ⟨steps + 1, Nat.le_trans (Nat.succ_le_succ hle) hlength, fun bound rest => ?_⟩
  have hvalue : readValue (ascii (c :: digits) ++ stop :: (ending ++ rest)) =
      some (.number (c :: digits), stop :: (ending ++ rest)) := by
    rw [readValue, readString_number hnumeric hne, readNumber_append hnumeric hstop,
      if_pos hnumber]
    rfl
  calc tokensWithin (bound + (steps + 1)) (ascii (c :: digits) ++ stop :: ending ++ rest)
      = (tokensWithin (bound + steps) (stop :: (ending ++ rest))).map
          (.scalar (.number (c :: digits)) :: ·) := by
        rw [List.append_assoc, ← Nat.add_assoc]
        exact tokensWithin_scalar
          (beginsScalar_of_isNumeric (hnumeric c List.mem_cons_self)) hvalue _
    _ = (tokensWithin bound rest).map
          (fun tokens => .scalar (.number (c :: digits)) :: (found ++ tokens)) := by
        have hending := hread bound rest
        rw [List.cons_append] at hending
        rw [hending, Option.map_map]
        rfl

/-- A piece that a reader either goes through or gives up at. -/
structure Part where
  text : List UInt8
  found : List Token
  isRead : Prop
  reads : isRead → Reads text found
  refuses : ¬ isRead → Refuses text

theorem reads_flatMap {parts : List Part} (h : ∀ part ∈ parts, part.isRead) :
    Reads (parts.flatMap Part.text) (parts.flatMap Part.found) := by
  induction parts with
  | nil => exact reads_nil
  | cons part parts ih =>
    obtain ⟨hpart, hparts⟩ := List.forall_mem_cons.mp h
    exact (part.reads hpart).append (ih hparts)

theorem refuses_flatMap {parts : List Part} (h : ¬ ∀ part ∈ parts, part.isRead) :
    Refuses (parts.flatMap Part.text) := by
  induction parts with
  | nil => exact absurd (List.forall_mem_nil _) h
  | cons part parts ih =>
    rw [List.flatMap_cons]
    by_cases hpart : part.isRead
    · -- the reader comes to the other parts, and gives up there
      exact (part.reads hpart).refuses_append
        (ih fun hparts => h (List.forall_mem_cons.mpr ⟨hpart, hparts⟩))
    · exact (part.refuses hpart).append _

/-- Several parts are one. -/
def Part.join (parts : List Part) : Part where
  text := parts.flatMap Part.text
  found := parts.flatMap Part.found
  isRead := ∀ part ∈ parts, part.isRead
  reads := reads_flatMap
  refuses := refuses_flatMap

@[simp] theorem Part.text_join (parts : List Part) :
    (join parts).text = parts.flatMap Part.text := rfl

@[simp] theorem Part.found_join (parts : List Part) :
    (join parts).found = parts.flatMap Part.found := rfl

@[simp] theorem Part.isRead_join (parts : List Part) :
    (join parts).isRead ↔ ∀ part ∈ parts, part.isRead := Iff.rfl

theorem reads_always (h : Reads text found) (_ : True) : Reads text found :=
  h

theorem refuses_always (h : ¬ True) : Refuses text :=
  absurd trivial h

/-- A part that is always read. -/
def Part.always (text : List UInt8) (found : List Token) (h : Reads text found) : Part where
  text := text
  found := found
  isRead := True
  reads := reads_always h
  refuses := refuses_always

@[simp] theorem Part.text_always (h : Reads text found) : (always text found h).text = text := rfl

@[simp] theorem Part.found_always (h : Reads text found) : (always text found h).found = found := rfl

@[simp] theorem Part.isRead_always (h : Reads text found) : (always text found h).isRead :=
  trivial

/-- **A text is read as the value of its tokens exactly if all of it is read**, and otherwise it is
no JSON at all. -/
theorem Part.decode_text_iff (part : Part) {json : Json} (hjson : part.found = json.tokens) :
    decode part.text = some json ↔ part.isRead := by
  constructor
  · intro hdecode
    by_contra hread
    rw [(part.refuses hread).decode_eq] at hdecode
    cases hdecode
  · intro hread
    rw [decode, (part.reads hread).tokens_eq, Option.bind_some, hjson]
    exact parse_tokens json

end

end JsonText
