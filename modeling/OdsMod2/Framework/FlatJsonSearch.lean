import OdsMod2.Framework.FlatJson
import OdsMod2.Framework.TextSearch

/-!
# Searching a flat JSON object for a quoted word

A lookup that does not parse an object searches its text for the quoted word and goes on from the
next colon. The members tell where that leads (`site_text`): to the first member with the word at the
end of its name, unless the word is the value of an earlier member, and then to the member behind it
or into the name of that.
-/

namespace FlatJson

open TextSearch

/-- The word cannot be mistaken for the text between two strings or for a piece of an escape. -/
def IsWord (key : List Char) : Prop :=
  ∀ c ∈ ['"', ':', ',', '\\'], c ∉ key

instance (key : List Char) : Decidable (IsWord key) :=
  List.decidableBAll (· ∉ key) _

/-- What is left behind the colon that follows the quoted word. -/
def site (key text : List Char) : Option (List Char) :=
  (afterFirst (marked '"' key) text).bind (afterFirst [':'])

/-- What a name holds behind the last of its escaped quotes, and all of it if there is none. -/
def lastPiece (piece : List Char) : List NameChar → List Char
  | [] => piece
  | .escape .quote :: name => lastPiece [] name
  | c :: name => lastPiece (piece ++ c.text) name

/-- The colon that a search ends at: none, the colon of a member, or the first one inside a name. -/
inductive Landing where
  | nowhere
  | member (m : Member) (rest : List Member)
  | insideName (m : Member) (rest : List Member)

/-- The first colon of the members. -/
def firstColon : List Member → Landing
  | [] => .nowhere
  | m :: rest => if ':' ∈ nameText m.name then .insideName m rest else .member m rest

/-- The colon that a search for the word ends at. -/
def landing (key : List Char) : List Member → Landing
  | [] => .nowhere
  | m :: rest =>
    if lastPiece [] m.name = key then .member m rest
    else if m.value.quoted = some key then firstColon rest
    else landing key rest

/-- The name of the next member; there is nothing in it if there is none. -/
def nextName : List Member → List NameChar
  | [] => []
  | m :: _ => m.name

theorem firstColon_mem {members rest : List Member} {m : Member}
    (h : firstColon members = .member m rest) : m ∈ members := by
  cases members with
  | nil => simp [firstColon] at h
  | cons n members =>
    rw [firstColon] at h
    split at h
    · cases h
    · cases h
      exact List.mem_cons_self

/-- A search that ends at the colon of a member ends inside the object. -/
theorem landing_mem {key : List Char} {members rest : List Member} {m : Member}
    (h : landing key members = .member m rest) : m ∈ members := by
  induction members with
  | nil => simp [landing] at h
  | cons n members ih =>
    rw [landing] at h
    split at h
    · cases h
      exact List.mem_cons_self
    · split at h
      · exact List.mem_cons_of_mem _ (firstColon_mem h)
      · exact List.mem_cons_of_mem _ (ih h)

/-- Where the word is neither a value nor the end of another name, the search ends at the colon of
the member with the name, if there is one. -/
theorem landing_own {key : List Char} {members : List Member}
    (hnames : ∀ m ∈ members, lastPiece [] m.name = key ↔ m.isNamed key = true)
    (hvalues : ∀ m ∈ members, m.value.quoted ≠ some key) :
    (∃ m rest, landing key members = .member m rest ∧ m ∈ members ∧ m.isNamed key = true) ∨
      landing key members = .nowhere ∧ ∀ m ∈ members, m.isNamed key = false := by
  induction members with
  | nil => exact .inr ⟨rfl, fun _ hm => (by cases hm)⟩
  | cons m members ih =>
    rw [landing, if_neg (hvalues m List.mem_cons_self)]
    split
    · rename_i hname
      exact .inl ⟨m, members, rfl, List.mem_cons_self, (hnames m List.mem_cons_self).mp hname⟩
    · rename_i hname
      have hother : m.isNamed key = false :=
        Bool.eq_false_iff.mpr fun h => hname ((hnames m List.mem_cons_self).mpr h)
      have hlater := ih (fun n hn => hnames n (List.mem_cons_of_mem _ hn))
        fun n hn => hvalues n (List.mem_cons_of_mem _ hn)
      rcases hlater with ⟨n, rest, hlanding, hn, hnamed⟩ | ⟨hlanding, hnone⟩
      · exact .inl ⟨n, rest, hlanding, List.mem_cons_of_mem _ hn, hnamed⟩
      · exact .inr ⟨hlanding, List.forall_mem_cons.mpr ⟨hother, hnone⟩⟩

/-- The text of a member from the end of its name, with what follows it. -/
def afterNameText (trail : Blank) (m : Member) (rest : List Member) : List Char :=
  m.afterName.text ++ ':' :: (m.body ++ tailText trail rest)

/-- What is left of a name behind its first colon. -/
def Member.nameRest (m : Member) : List Char :=
  ((nameText m.name).dropWhile (· ≠ ':')).tail

/-- What is left behind the colon. -/
def Landing.text (trail : Blank) : Landing → Option (List Char)
  | .nowhere => none
  | .member m rest => some (m.body ++ tailText trail rest)
  | .insideName m rest => some (m.nameRest ++ '"' :: afterNameText trail m rest)

variable {key piece gap text : List Char} {trail : Blank}

/-! ### Inside a name -/

/-- A character of a name holds a quote only where the quote is escaped. -/
theorem NameChar.not_mem_text {c : NameChar} (h : c ≠ .escape .quote) : '"' ∉ c.text := by
  cases c with
  | plain c hc =>
    rw [NameChar.text, List.mem_singleton]
    rintro rfl
    exact absurd hc (by decide)
  | escape e => cases e <;> first | exact absurd rfl h | decide
  | unicode a b c d =>
    have hhex : ∀ h : Hex, '"' ≠ h.char := by
      rintro ⟨value, capital⟩
      revert value capital
      decide
    simp [NameChar.text, hhex]

/-- A name that is not empty begins with something other than a quote. -/
theorem takeWhile_nameText_eq_nil (name : List NameChar) :
    (nameText name).takeWhile (· ≠ '"') = [] ↔ name = [] := by
  constructor
  · intro h
    cases name with
    | nil => rfl
    | cons c name =>
      exfalso
      cases c with
      | plain c hc =>
        have hquote : c ≠ '"' := by
          rintro rfl
          exact absurd hc (by decide)
        simp [nameText, NameChar.text, hquote] at h
      | escape e => simp [nameText, NameChar.text] at h
      | unicode a b c d => simp [nameText, NameChar.text] at h
  · rintro rfl
    rfl

theorem lastPiece_cons {c : NameChar} (h : c ≠ .escape .quote) (name : List NameChar) :
    lastPiece piece (c :: name) = lastPiece (piece ++ c.text) name := by
  rw [lastPiece]
  exact h

/-- The search passes over a name, or ends with it. -/
theorem afterFirst_name (hkey : IsWord key) (name : List NameChar) (hpiece : '"' ∉ piece) :
    afterFirst (marked '"' key) ('"' :: (piece ++ (nameText name ++ '"' :: text))) =
      if lastPiece piece name = key then some text
      else afterFirst (marked '"' key) ('"' :: text) := by
  induction name generalizing piece with
  | nil => exact afterFirst_marked (hkey '"' (by simp)) hpiece
  | cons c name ih =>
    by_cases hc : c = .escape .quote
    · -- the backslash before the quote ends a piece that is not the word
      subst hc
      have hquote : '"' ∉ piece ++ ['\\'] := by simp [hpiece]
      have hne : piece ++ ['\\'] ≠ key := by
        rintro rfl
        exact hkey '\\' (by simp) (by simp)
      have htext : '"' :: (piece ++ (nameText (.escape .quote :: name) ++ '"' :: text)) =
          '"' :: ((piece ++ ['\\']) ++ '"' :: (nameText name ++ '"' :: text)) := by
        simp [nameText, NameChar.text, Escape.letter]
      rw [htext, afterFirst_marked (hkey '"' (by simp)) hquote, if_neg hne]
      exact ih List.not_mem_nil
    · have htext : piece ++ (nameText (c :: name) ++ '"' :: text) =
          (piece ++ c.text) ++ (nameText name ++ '"' :: text) := by
        simp [nameText]
      have hquote : '"' ∉ piece ++ c.text := by
        simp [hpiece, NameChar.not_mem_text hc]
      rw [htext, ih hquote, lastPiece_cons hc]

/-! ### From member to member -/

theorem tailText_cons (m : Member) (rest : List Member) :
    tailText trail (m :: rest) =
      (',' :: m.before.text) ++ '"' :: (nameText m.name ++ '"' :: afterNameText trail m rest) := by
  simp [tailText, Member.head, afterNameText]

/-- Between two tokens the search passes over everything up to the next name. -/
theorem afterFirst_tailText (m : Member) (rest : List Member) :
    afterFirst (marked '"' key) (tailText trail (m :: rest)) =
      afterFirst (marked '"' key) ('"' :: (nameText m.name ++ '"' :: afterNameText trail m rest)) := by
  have hskip : '"' ∉ ',' :: m.before.text := by simp
  rw [tailText_cons]
  exact afterFirst_skip hskip

/-- A quote that ends a string does not open the word, since a comma stands before the next
quote. -/
theorem afterFirst_closing (hkey : IsWord key) (hgap : '"' ∉ gap) (rest : List Member) :
    afterFirst (marked '"' key) ('"' :: (gap ++ tailText trail rest)) =
      afterFirst (marked '"' key) (tailText trail rest) := by
  cases rest with
  | nil =>
    have htail : '"' ∉ tailText trail [] := by simp [tailText]
    have hboth : '"' ∉ gap ++ tailText trail [] := by simp [hgap, htail]
    rw [afterFirst_last_mark hboth]
    exact (afterFirst_eq_none htail).symm
  | cons m rest =>
    have hquote : '"' ∉ gap ++ ',' :: m.before.text := by simp [hgap]
    have hne : gap ++ ',' :: m.before.text ≠ key := by
      rintro rfl
      exact hkey ',' (by simp) (by simp)
    rw [tailText_cons, ← List.append_assoc, afterFirst_marked (hkey '"' (by simp)) hquote,
      if_neg hne, ← afterFirst_tailText, tailText_cons]

/-- The search finds the value of a member, or passes over it. -/
theorem afterFirst_value (hkey : IsWord key) (m : Member) (rest : List Member) :
    afterFirst (marked '"' key) ('"' :: afterNameText trail m rest) =
      if m.value.quoted = some key then some (m.afterValue.text ++ tailText trail rest)
      else afterFirst (marked '"' key) (tailText trail rest) := by
  cases hvalue : m.value.quoted with
  | none =>
    -- a value that is no string contains no quote
    have hgap : '"' ∉ m.afterName.text ++ ':' :: m.body := by
      simp [Member.body, Value.not_mem_text hvalue]
    have htext : afterNameText trail m rest =
        (m.afterName.text ++ ':' :: m.body) ++ tailText trail rest := by
      simp [afterNameText]
    rw [htext, afterFirst_closing hkey hgap, if_neg (by simp)]
  | some content =>
    -- between the name and the string there is a colon, and no key contains one
    obtain ⟨hvalueText, hcontent⟩ := Value.text_of_quoted hvalue
    have hbefore : '"' ∉ m.afterName.text ++ ':' :: m.beforeValue.text := by simp
    have hne : m.afterName.text ++ ':' :: m.beforeValue.text ≠ key := by
      rintro rfl
      exact hkey ':' (by simp) (by simp)
    have htext : afterNameText trail m rest = (m.afterName.text ++ ':' :: m.beforeValue.text) ++
        '"' :: (content ++ '"' :: (m.afterValue.text ++ tailText trail rest)) := by
      simp [afterNameText, Member.body, hvalueText]
    rw [htext, afterFirst_marked (hkey '"' (by simp)) hbefore, if_neg hne,
      afterFirst_marked (hkey '"' (by simp)) hcontent,
      afterFirst_closing hkey m.afterValue.quote_not_mem]
    simp only [Option.some.injEq]

/-! ### The colon -/

/-- After the name of a member comes its own colon. -/
theorem afterFirst_colon (m : Member) (rest : List Member) :
    afterFirst [':'] (afterNameText trail m rest) = some (m.body ++ tailText trail rest) :=
  afterFirst_mark m.afterName.colon_not_mem

/-- After a value comes the first colon of the members behind it. -/
theorem afterFirst_firstColon (b : Blank) (rest : List Member) :
    afterFirst [':'] (b.text ++ tailText trail rest) = (firstColon rest).text trail := by
  cases rest with
  | nil =>
    have hnone : ':' ∉ b.text ++ tailText trail [] := by simp [tailText]
    exact afterFirst_eq_none hnone
  | cons m rest =>
    rw [firstColon]
    split
    · rename_i hcolon
      -- the colon is inside the name
      have hname : nameText m.name = (nameText m.name).takeWhile (· ≠ ':') ++ ':' :: m.nameRest :=
        (takeWhile_append_mark hcolon).symm
      have htext : b.text ++ tailText trail (m :: rest) =
          (b.text ++ ',' :: (m.before.text ++ '"' :: (nameText m.name).takeWhile (· ≠ ':'))) ++
            ':' :: (m.nameRest ++ '"' :: afterNameText trail m rest) := by
        rw [tailText_cons]
        nth_rewrite 1 [hname]
        simp
      have hskip : ':' ∉ b.text ++ ',' ::
          (m.before.text ++ '"' :: (nameText m.name).takeWhile (· ≠ ':')) := by
        have hbefore : ':' ∉ (nameText m.name).takeWhile (· ≠ ':') := not_mem_takeWhile ':' _
        simpa using hbefore
      rw [htext, afterFirst_mark hskip]
      rfl
    · rename_i hcolon
      -- the colon is the one behind the name
      have hskip : ':' ∉ b.text ++ ',' :: (m.before.text ++ '"' :: (nameText m.name ++ ['"'])) := by
        simp [hcolon]
      have htext : b.text ++ tailText trail (m :: rest) =
          (b.text ++ ',' :: (m.before.text ++ '"' :: (nameText m.name ++ ['"']))) ++
            afterNameText trail m rest := by
        simp [tailText_cons]
      rw [htext, afterFirst_skip hskip, afterFirst_colon]
      rfl

/-! ### The whole object -/

theorem site_tailText (hkey : IsWord key) (members : List Member) :
    site key (tailText trail members) = (landing key members).text trail := by
  induction members with
  | nil =>
    have hnone : '"' ∉ tailText trail [] := by simp [tailText]
    rw [site, marked, afterFirst_eq_none hnone]
    rfl
  | cons m rest ih =>
    rw [site, afterFirst_tailText, ← List.nil_append (nameText m.name ++ _),
      afterFirst_name hkey m.name List.not_mem_nil, landing]
    split
    · exact afterFirst_colon m rest
    · rw [afterFirst_value hkey]
      split
      · exact afterFirst_firstColon m.afterValue rest
      · exact ih

/-- Where the search for a quoted word leads in the text of an object. -/
theorem site_text (hkey : IsWord key) (o : FlatObject) :
    site key o.text = (landing key o.members).text o.trail := by
  rw [FlatObject.text]
  cases o.members with
  | nil =>
    have hnone : '"' ∉ o.lead.text ++ '{' :: (o.inside.text ++ '}' :: o.trail.text) := by simp
    rw [site, marked, afterFirst_eq_none hnone]
    rfl
  | cons m rest =>
    -- the brace of the object stands where a comma stands before a later member
    have hskip : '"' ∉ o.lead.text ++ '{' :: m.before.text := by simp
    have htext : o.lead.text ++ '{' :: (m.head ++ ':' :: (m.body ++ tailText o.trail rest)) =
        (o.lead.text ++ '{' :: m.before.text) ++
          '"' :: (nameText m.name ++ '"' :: afterNameText o.trail m rest) := by
      simp [Member.head, afterNameText]
    have hopening : afterFirst (marked '"' key)
        (o.lead.text ++ '{' :: (m.head ++ ':' :: (m.body ++ tailText o.trail rest))) =
          afterFirst (marked '"' key) (tailText o.trail (m :: rest)) := by
      rw [htext, afterFirst_tailText]
      exact afterFirst_skip hskip
    rw [← site_tailText hkey, site, site, hopening]

end FlatJson
