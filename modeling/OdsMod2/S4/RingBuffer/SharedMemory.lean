import OdsMod2.Framework.LabelledRun
import OdsMod2.S4.RingBuffer.FacadeCalls

/-!
# Segments under a name

A `SharedMemoryFrameStore` is a mapping of a POSIX segment. The one that creates a segment owns it and
takes its name away when it is closed; others attach to a segment by its name. A process may die with
the store open, and then the name stays: the next one finds it in use, unless it is told to replace it.
`replaceExisting` cannot tell a segment that was left behind from one in use.

A step is a call of one store; the stores of any number of processes take them in any order, and the
kernel may fail a constructor at each of its calls. In every run (`sharedMemory_run`) two owners never
share a segment, and each finds in its own what was written to that one and nothing else, as the store
with its private arena does (`SharedMemoryFrameStore.write`). A name is left behind only by a process
that died. That an owner keeps its name until it gives it up holds as long as nobody replaces.
-/

namespace Ods.S4

open LabelledRun Region

/-! ### The kernel -/

/-- `/dev/shm`: the segments by number, and where the names lead. -/
structure SharedMemory where
  segments : List (List UInt8)
  names : String → Option Nat

namespace SharedMemory

def unlink (shm : SharedMemory) (shmName : String) : SharedMemory :=
  { shm with names := Function.update shm.names shmName none }

/-- `O_CREAT | O_EXCL`, where the name is free. -/
def createSegment (shm : SharedMemory) (shmName : String) : SharedMemory where
  segments := shm.segments ++ [[]]
  names := Function.update shm.names shmName (some shm.segments.length)

/-- `ftruncate` of an empty segment. -/
def resize (shm : SharedMemory) (segment capacityBytes : Nat) : SharedMemory :=
  { shm with segments := shm.segments.set segment (List.replicate capacityBytes 0) }

end SharedMemory

/-- The call of the constructor that the kernel fails. -/
inductive ShmFailure where
  | opening
  | sizing
  | mapping
  deriving DecidableEq

/-! ### The store -/

/-- A store that has been constructed. -/
structure MappedStore where
  name : String
  capacityBytes : Nat
  ownsSegment : Bool
  isClosed : Bool
  segment : Nat

/-- `posix_name`. -/
def posixName (name : String) : String :=
  if name.front = '/' then name else "/" ++ name

def cannotOpen (shmName reason : String) : ODSException :=
  .application ⟨.frameStore, s!"cannot open shared memory segment '{shmName}{reason}"⟩

/-- What `shm_open` comes to: the number of the segment, or the end of the text. -/
def SharedMemory.shmOpen (shm : SharedMemory) (name : String) (create : Bool)
    (failure : Option ShmFailure) : Except String (Nat × SharedMemory) :=
  if failure = some .opening then .error "'"
  else
    match create, shm.names (posixName name) with
    | true, some _ => .error (s!"' already exists (another instance running, or a stale segment: " ++
        s!"remove /dev/shm/{name} or enable replaceStaleSegment)")
    | true, none => .ok (shm.segments.length, shm.createSegment (posixName name))
    | false, some segment => .ok (segment, shm)
    | false, none => .error "'"

namespace MappedStore

/-- The constructor. -/
def construct (shm : SharedMemory) (name : String) (capacityBytes : Nat)
    (create replaceExisting : Bool) (failure : Option ShmFailure) :
    Except ODSException MappedStore × SharedMemory :=
  if capacityBytes = 0 then
    (.error (.domain ⟨.invalidCapacity, "capacityBytes must be positive"⟩), shm)
  else
    let shmName := posixName name
    let shm := if create && replaceExisting then shm.unlink shmName else shm
    match shm.shmOpen name create failure with
    | .error reason => (.error (cannotOpen shmName reason), shm)
    | .ok (segment, shm) =>
      if create && decide (failure = some .sizing) then
        (.error (.application ⟨.frameStore, s!"cannot size shared memory segment '{shmName}'"⟩),
          shm.unlink shmName)
      else
        let shm := if create then shm.resize segment capacityBytes else shm
        if failure = some .mapping then
          (.error (.application ⟨.frameStore, s!"cannot map shared memory segment '{shmName}'"⟩),
            if create then shm.unlink shmName else shm)
        else
          (.ok ⟨name, capacityBytes, create, false, segment⟩, shm)

/-- `write` to the mapping. -/
def write (store : MappedStore) (shm : SharedMemory) (offset : Nat) (data : List UInt8) :
    Except ApplicationError SharedMemory :=
  if store.isClosed then
    .error ⟨.frameStore, s!"arena '{store.name}' is already closed"⟩
  else if offset + data.length > store.capacityBytes then
    .error ⟨.frameStore, s!"access outside the arena of {store.capacityBytes} bytes"⟩
  else
    .ok { shm with
      segments := shm.segments.modify store.segment fun bytes => overwrite bytes offset data }

/-- `close`. -/
def close (store : MappedStore) (shm : SharedMemory) : MappedStore × SharedMemory :=
  if store.isClosed then (store, shm)
  else
    ({ store with isClosed := true },
      if store.ownsSegment then shm.unlink (posixName store.name) else shm)

/-- The segment that is left under the name if nobody calls `close`. -/
def leaves (store : MappedStore) : Option Nat :=
  if store.ownsSegment && !store.isClosed then some store.segment else none

end MappedStore

/-! ### The stores of all processes -/

structure ShmSystem (ι : Type) where
  shm : SharedMemory
  stores : ι → Option MappedStore

/-- What a step did. -/
inductive ShmLabel (ι : Type) where
  | constructed (store : ι) (replaceExisting : Bool)
  | refused (replaceExisting : Bool)
  | wrote (store : ι) (segment offset : Nat) (data : List UInt8)
  /-- The call has thrown. -/
  | failed (store : ι)
  | closed (store : ι)
  /-- The destructor has run. -/
  | destroyed (store : ι)
  /-- The process has ended without it, and may have left a segment under its name. -/
  | died (store : ι) (left : Option Nat)

/-- The constructor was told to take the name away first. -/
def ShmLabel.Replaces {ι : Type} : ShmLabel ι → Prop
  | .constructed _ replaceExisting | .refused replaceExisting => replaceExisting = true
  | _ => False

section Steps

variable {ι : Type} [DecidableEq ι]

inductive ShmStep : ShmSystem ι → ShmLabel ι → ShmSystem ι → Prop
  | construct {s : ShmSystem ι} {shm : SharedMemory} {mapped : MappedStore} {store : ι}
      {name : String} {capacityBytes : Nat} {create replaceExisting : Bool}
      {failure : Option ShmFailure} (hnew : s.stores store = none)
      (hconstruct : MappedStore.construct s.shm name capacityBytes create replaceExisting failure =
        (.ok mapped, shm)) :
    ShmStep s (.constructed store (create && replaceExisting))
      ⟨shm, Function.update s.stores store (some mapped)⟩
  | refuse {s : ShmSystem ι} {shm : SharedMemory} {error : ODSException} {name : String}
      {capacityBytes : Nat} {create replaceExisting : Bool} {failure : Option ShmFailure}
      (hconstruct : MappedStore.construct s.shm name capacityBytes create replaceExisting failure =
        (.error error, shm)) :
    ShmStep s (.refused (create && replaceExisting)) { s with shm := shm }
  /-- A mapping may be longer than the segment behind it; a store that writes there dies. -/
  | write {s : ShmSystem ι} {shm : SharedMemory} {mapped : MappedStore} {store : ι} {offset : Nat}
      {data bytes : List UInt8} (hstore : s.stores store = some mapped)
      (hbytes : s.shm.segments[mapped.segment]? = some bytes)
      (hbehind : offset + data.length ≤ bytes.length)
      (hwrite : mapped.write s.shm offset data = .ok shm) :
    ShmStep s (.wrote store mapped.segment offset data) { s with shm := shm }
  | fail {s : ShmSystem ι} {mapped : MappedStore} {error : ApplicationError} {store : ι}
      {offset : Nat} {data : List UInt8} (hstore : s.stores store = some mapped)
      (hwrite : mapped.write s.shm offset data = .error error) : ShmStep s (.failed store) s
  | close {s : ShmSystem ι} {mapped : MappedStore} {store : ι}
      (hstore : s.stores store = some mapped) :
    ShmStep s (.closed store)
      ⟨(mapped.close s.shm).2, Function.update s.stores store (some (mapped.close s.shm).1)⟩
  | destroy {s : ShmSystem ι} {mapped : MappedStore} {store : ι}
      (hstore : s.stores store = some mapped) :
    ShmStep s (.destroyed store) ⟨(mapped.close s.shm).2, Function.update s.stores store none⟩
  | die {s : ShmSystem ι} {mapped : MappedStore} {store : ι}
      (hstore : s.stores store = some mapped) :
    ShmStep s (.died store mapped.leaves) { s with stores := Function.update s.stores store none }

end Steps

/-! ### What the calls do -/

namespace MappedStore

section Constructor

variable {shm after : SharedMemory} {name : String} {capacityBytes : Nat}
  {create replaceExisting : Bool} {failure : Option ShmFailure}

/-- What the constructor comes to. -/
inductive Constructed (shm : SharedMemory) (name : String) (capacityBytes : Nat) (replaces : Bool) :
    Except ODSException MappedStore × SharedMemory → Prop
  | attached {segment : Nat} (hname : shm.names (posixName name) = some segment) :
    Constructed shm name capacityBytes replaces
      (.ok ⟨name, capacityBytes, false, false, segment⟩, shm)
  | created (hfree : replaces = true ∨ shm.names (posixName name) = none) :
    Constructed shm name capacityBytes replaces
      (.ok ⟨name, capacityBytes, true, false, shm.segments.length⟩,
        ⟨shm.segments ++ [List.replicate capacityBytes 0],
          Function.update shm.names (posixName name) (some shm.segments.length)⟩)
  /-- At most the name is gone, and an empty segment has been left without one. -/
  | refused {error : ODSException} {after : SharedMemory}
      (hsegments : shm.segments <+: after.segments)
      (hnames : after.names = shm.names ∨
        replaces = true ∧ after.names = (shm.unlink (posixName name)).names) :
    Constructed shm name capacityBytes replaces (.error error, after)

theorem update_unlink (shm : SharedMemory) (name : String) (value : Option Nat) :
    Function.update (shm.unlink (posixName name)).names (posixName name) value =
      Function.update shm.names (posixName name) value :=
  Function.update_idem _ _ _

/-- A name that is taken and given up again is as it was without it. -/
theorem unlink_createSegment (hfree : shm.names (posixName name) = none) :
    ((shm.createSegment (posixName name)).unlink (posixName name)).names = shm.names := by
  show Function.update (Function.update shm.names _ _) _ none = _
  rw [Function.update_idem, ← hfree, Function.update_eq_self]

theorem resize_createSegment (shm : SharedMemory) (shmName : String) (capacityBytes : Nat) :
    ((shm.createSegment shmName).resize shm.segments.length capacityBytes).segments =
      shm.segments ++ [List.replicate capacityBytes 0] := by
  show (shm.segments ++ [[]]).set shm.segments.length _ = _
  rw [List.set_append_right _ _ (Nat.le_refl _), Nat.sub_self]
  rfl

theorem construct_cases (shm : SharedMemory) (name : String) (capacityBytes : Nat)
    (create replaceExisting : Bool) (failure : Option ShmFailure) :
    Constructed shm name capacityBytes (create && replaceExisting)
      (construct shm name capacityBytes create replaceExisting failure) := by
  unfold construct
  split
  · exact .refused List.prefix_rfl (.inl rfl)
  · dsimp only
    -- what the name leads to once it has been taken away
    generalize hopened : (if create && replaceExisting then shm.unlink (posixName name) else shm) =
      opened
    have hsegments : opened.segments = shm.segments := by
      rw [← hopened]
      split
      · rfl
      · rfl
    have hnames : opened.names = shm.names ∨ (create && replaceExisting) = true ∧
        opened.names = (shm.unlink (posixName name)).names := by
      rw [← hopened]
      split
      · next hreplace => exact .inr ⟨hreplace, rfl⟩
      · exact .inl rfl
    have hrefused : ∀ {error : ODSException} {after : SharedMemory},
        shm.segments <+: after.segments → after.names = opened.names →
          Constructed shm name capacityBytes (create && replaceExisting) (.error error, after) := by
      intro error after hprefix heq
      refine .refused hprefix ?_
      rw [heq]
      exact hnames
    -- the ways out of the constructor, in the order of the source
    cases hopen : opened.shmOpen name create failure with
    | error reason => exact hrefused (hsegments ▸ List.prefix_rfl) rfl
    | ok result =>
      obtain ⟨segment, mapped⟩ := result
      unfold SharedMemory.shmOpen at hopen
      split at hopen
      · cases hopen
      · split at hopen
        · cases hopen
        · next hfree =>
          -- a segment of its own
          obtain ⟨rfl, rfl⟩ := Prod.mk.inj (Except.ok.inj hopen)
          have hgone := unlink_createSegment hfree
          dsimp only
          rw [Bool.true_and, if_pos rfl, if_pos rfl]
          split
          · refine hrefused ?_ hgone
            show shm.segments <+: opened.segments ++ [[]]
            rw [hsegments]
            exact List.prefix_append _ _
          · split
            · refine hrefused ?_ hgone
              show shm.segments <+:
                ((opened.createSegment (posixName name)).resize _ capacityBytes).segments
              rw [resize_createSegment, hsegments]
              exact List.prefix_append _ _
            · have hmapped : (opened.createSegment (posixName name)).resize opened.segments.length
                  capacityBytes = ⟨shm.segments ++ [List.replicate capacityBytes 0],
                    Function.update shm.names (posixName name) (some shm.segments.length)⟩ := by
                have htaken : Function.update opened.names (posixName name)
                    (some opened.segments.length) =
                      Function.update shm.names (posixName name) (some shm.segments.length) := by
                  rw [hsegments]
                  rcases hnames with hsame | ⟨-, hunlinked⟩
                  · rw [hsame]
                  · rw [hunlinked, update_unlink]
                rw [← htaken, ← hsegments, ← resize_createSegment]
                rfl
              rw [hmapped, hsegments]
              refine .created ?_
              rcases hnames with hsame | ⟨hreplace, -⟩
              · exact .inr (hsame ▸ hfree)
              · exact .inl hreplace
        · next segment hname =>
          obtain ⟨rfl, rfl⟩ := Prod.mk.inj (Except.ok.inj hopen)
          -- nobody is replaced here, so the segment is the one that had the name
          obtain rfl : shm = opened := hopened
          dsimp only
          rw [Bool.false_and, Bool.false_and, if_neg Bool.false_ne_true]
          split
          · exact .refused List.prefix_rfl (.inl rfl)
          · exact .attached hname
        · cases hopen

end Constructor

variable {mapped : MappedStore} {shm after : SharedMemory}

theorem construct_ok {name : String} {capacityBytes : Nat} {create replaceExisting : Bool}
    {failure : Option ShmFailure}
    (h : construct shm name capacityBytes create replaceExisting failure = (.ok mapped, after)) :
    0 < capacityBytes := by
  unfold construct at h
  split at h
  · cases h
  · next hne => exact Nat.pos_of_ne_zero hne

/-- A write that comes back was made inside the mapping. -/
theorem write_ok {offset : Nat} {data : List UInt8} (h : mapped.write shm offset data = .ok after) :
    offset + data.length ≤ mapped.capacityBytes ∧ after = { shm with
      segments := shm.segments.modify mapped.segment fun bytes => overwrite bytes offset data } := by
  unfold write at h
  split at h
  · cases h
  · split at h
    · cases h
    · next hbounds => exact ⟨Nat.not_lt.mp hbounds, (Except.ok.inj h).symm⟩

theorem names_of_unlink {shmName name : String} {segment : Nat}
    (h : Function.update shm.names shmName none name = some segment) :
    shm.names name = some segment := by
  by_cases hsame : name = shmName
  · subst hsame
    rw [Function.update_self] at h
    cases h
  · rwa [Function.update_of_ne hsame] at h

theorem close_fst : (mapped.close shm).1 = { mapped with isClosed := true } := by
  unfold close
  split
  · next hclosed => rw [← hclosed]
  · rfl

theorem close_segments : (mapped.close shm).2.segments = shm.segments := by
  unfold close
  split
  · rfl
  · dsimp only
    split
    · rfl
    · rfl

/-- The name of an open owner is given up, and no other. -/
theorem close_names : (mapped.close shm).2.names =
    if mapped.leaves = none then shm.names
    else Function.update shm.names (posixName mapped.name) none := by
  unfold close leaves
  cases mapped.isClosed with
  | true => rw [Bool.not_true, Bool.and_false, if_pos rfl, if_neg Bool.false_ne_true, if_pos rfl]
  | false =>
    cases mapped.ownsSegment with
    | true => rfl
    | false => rfl

end MappedStore

/-! ### The invariant -/

section Invariant

variable {ι : Type}

/-- What was written to the segment, in order. -/
def writesTo (segment : Nat) (history : List (ShmLabel ι)) : List (Nat × List UInt8) :=
  history.filterMap fun
    | .wrote _ segment' offset data => if segment' = segment then some (offset, data) else none
    | _ => none

/-- The store of one process alone, after these writes. -/
def SharedMemoryFrameStore.writeAll (store : SharedMemoryFrameStore)
    (writes : List (Nat × List UInt8)) : Except ApplicationError SharedMemoryFrameStore :=
  writes.foldlM (fun store write => store.write write.1 write.2) store

/-- A store that created its segment. -/
def ShmSystem.Owner (s : ShmSystem ι) (store : ι) (mapped : MappedStore) : Prop :=
  s.stores store = some mapped ∧ mapped.ownsSegment = true

/-- The segments and the names, at the end of a history that began with `boot`. -/
structure ShmInv (boot : SharedMemory) (history : List (ShmLabel ι)) (s : ShmSystem ι) : Prop where
  mapped_lt : ∀ store mapped, s.stores store = some mapped →
    mapped.segment < s.shm.segments.length
  name_lt : ∀ shmName segment, s.shm.names shmName = some segment →
    segment < s.shm.segments.length
  wrote_lt : ∀ store segment offset data, ShmLabel.wrote store segment offset data ∈ history →
    segment < s.shm.segments.length
  /-- Two owners have two segments. -/
  apart : ∀ store store' mapped mapped', s.Owner store mapped → s.Owner store' mapped' →
    mapped.segment = mapped'.segment → store = store'
  /-- An owner's segment is the arena of a store that is alone. -/
  alone : ∀ store mapped, s.Owner store mapped → ∃ hpos frameStore,
    (SharedMemoryFrameStore.create mapped.name ⟨mapped.capacityBytes, hpos⟩).writeAll
      (writesTo mapped.segment history) = .ok frameStore ∧
        s.shm.segments[mapped.segment]? = some frameStore.arena
  /-- A name leads to what an open owner or a process that died has put there. -/
  kept : ∀ shmName segment, s.shm.names shmName = some segment →
    boot.names shmName = some segment ∨
      (∃ store mapped, s.stores store = some mapped ∧ mapped.leaves = some segment ∧
        posixName mapped.name = shmName) ∨
      ∃ store, ShmLabel.died store (some segment) ∈ history
  /-- While nobody replaces, an open owner has its name. -/
  named : (∀ label ∈ history, ¬ label.Replaces) → ∀ store mapped, s.stores store = some mapped →
    mapped.leaves = some mapped.segment → s.shm.names (posixName mapped.name) = some mapped.segment

section Step

variable {boot : SharedMemory} {history : List (ShmLabel ι)} {s s' : ShmSystem ι} {label : ShmLabel ι}

def ShmLabel.IsWrite : ShmLabel ι → Prop
  | .wrote _ _ _ _ => True
  | _ => False

theorem writesTo_concat (segment : Nat) (history : List (ShmLabel ι)) (label : ShmLabel ι) :
    writesTo segment (history ++ [label]) = writesTo segment history ++ writesTo segment [label] :=
  List.filterMap_append

theorem writesTo_of_not_isWrite (segment : Nat) (h : ¬ label.IsWrite) :
    writesTo segment (history ++ [label]) = writesTo segment history := by
  rw [writesTo_concat]
  cases label with
  | wrote store segment' offset data => exact absurd trivial h
  | _ => exact List.append_nil _

/-- Nobody has written to a segment that there is not yet. -/
theorem ShmInv.writesTo_new (h : ShmInv boot history s) :
    writesTo s.shm.segments.length history = [] := by
  refine List.filterMap_eq_nil_iff.mpr fun label hlabel => ?_
  cases label with
  | wrote store segment offset data =>
    exact if_neg (Nat.ne_of_lt (h.wrote_lt store segment offset data hlabel))
  | _ => rfl

/-- The store is one that was there, and may have been closed. -/
def Inherited (s : ShmSystem ι) (store : ι) (mapped' : MappedStore) : Prop :=
  ∃ mapped, s.stores store = some mapped ∧
    (mapped' = mapped ∨ mapped' = { mapped with isClosed := true })

/-- What the history says of the stores that were there, it goes on to say. -/
theorem ShmInv.alone_of_inherited (h : ShmInv boot history s) (hlabel : ¬ label.IsWrite)
    (hsegments : s.shm.segments <+: s'.shm.segments) {store : ι} {mapped' : MappedStore}
    (hinherited : Inherited s store mapped') (howns : mapped'.ownsSegment = true) :
    ∃ hpos frameStore, (SharedMemoryFrameStore.create mapped'.name ⟨mapped'.capacityBytes, hpos⟩).writeAll
      (writesTo mapped'.segment (history ++ [label])) = .ok frameStore ∧
        s'.shm.segments[mapped'.segment]? = some frameStore.arena := by
  obtain ⟨mapped, hstore, hsame⟩ := hinherited
  have hmapped : mapped'.name = mapped.name ∧ mapped'.capacityBytes = mapped.capacityBytes ∧
      mapped'.segment = mapped.segment ∧ mapped'.ownsSegment = mapped.ownsSegment := by
    rcases hsame with rfl | rfl
    · exact ⟨rfl, rfl, rfl, rfl⟩
    · exact ⟨rfl, rfl, rfl, rfl⟩
  obtain ⟨hname, hcapacity, hsegment, hown⟩ := hmapped
  obtain ⟨hpos, frameStore, hwrites, harena⟩ := h.alone store mapped ⟨hstore, hown ▸ howns⟩
  rw [writesTo_of_not_isWrite _ hlabel, hsegment, hname]
  simp only [hcapacity]
  refine ⟨hpos, frameStore, hwrites, ?_⟩
  obtain ⟨new, hnew⟩ := hsegments
  rw [← hnew, List.getElem?_append_left (h.mapped_lt store mapped hstore)]
  exact harena

/-- **A call that writes nothing and makes no store.** -/
theorem ShmInv.of_inherited (h : ShmInv boot history s) (hlabel : ¬ label.IsWrite)
    (hsegments : s.shm.segments <+: s'.shm.segments)
    (hinherited : ∀ store mapped', s'.stores store = some mapped' → Inherited s store mapped')
    (hnames : ∀ shmName segment, s'.shm.names shmName = some segment →
      s.shm.names shmName = some segment)
    (hkept : ∀ store mapped segment, s.stores store = some mapped → mapped.leaves = some segment →
      s'.shm.names (posixName mapped.name) = some segment →
        s'.stores store = some mapped ∨ ∃ store', label = .died store' (some segment))
    (hnamed : ¬ label.Replaces → (∀ store mapped, s.stores store = some mapped →
      mapped.leaves = some mapped.segment →
        s.shm.names (posixName mapped.name) = some mapped.segment) →
      ∀ store mapped, s'.stores store = some mapped → mapped.leaves = some mapped.segment →
        s'.shm.names (posixName mapped.name) = some mapped.segment) :
    ShmInv boot (history ++ [label]) s' where
  mapped_lt := by
    intro store mapped' hstore
    obtain ⟨mapped, hold, hsame⟩ := hinherited store mapped' hstore
    have hlt := Nat.lt_of_lt_of_le (h.mapped_lt store mapped hold) hsegments.length_le
    rcases hsame with rfl | rfl
    · exact hlt
    · exact hlt
  name_lt := fun shmName segment hname =>
    Nat.lt_of_lt_of_le (h.name_lt shmName segment (hnames shmName segment hname)) hsegments.length_le
  wrote_lt := by
    intro store segment offset data hmem
    rcases List.mem_append.mp hmem with hmem | hmem
    · exact Nat.lt_of_lt_of_le (h.wrote_lt store segment offset data hmem) hsegments.length_le
    · rw [List.mem_singleton] at hmem
      exact absurd (hmem ▸ trivial) hlabel
  apart := by
    rintro store store' mapped mapped' ⟨hstore, howns⟩ ⟨hstore', howns'⟩ hsegment
    obtain ⟨old, hold, hsame⟩ := hinherited store mapped hstore
    obtain ⟨old', hold', hsame'⟩ := hinherited store' mapped' hstore'
    refine h.apart store store' old old' ⟨hold, ?_⟩ ⟨hold', ?_⟩ ?_
    · rcases hsame with rfl | rfl <;> exact howns
    · rcases hsame' with rfl | rfl <;> exact howns'
    · rcases hsame with rfl | rfl <;> rcases hsame' with rfl | rfl <;> exact hsegment
  alone := fun store mapped' howner =>
    h.alone_of_inherited hlabel hsegments (hinherited store mapped' howner.1) howner.2
  kept := by
    intro shmName segment hname
    rcases h.kept shmName segment (hnames shmName segment hname) with
      hboot | ⟨store, mapped, hstore, hleaves, rfl⟩ | ⟨store, hdied⟩
    · exact .inl hboot
    · rcases hkept store mapped segment hstore hleaves hname with hstays | ⟨store', rfl⟩
      · exact .inr (.inl ⟨store, mapped, hstays, hleaves, rfl⟩)
      · exact .inr (.inr ⟨store', List.mem_append_right _ List.mem_cons_self⟩)
    · exact .inr (.inr ⟨store, List.mem_append_left _ hdied⟩)
  named := by
    intro hnone
    obtain ⟨hbefore, hlast⟩ := List.forall_mem_append.mp hnone
    exact hnamed (hlast label List.mem_cons_self) (h.named hbefore)

theorem leaves_eq_some {mapped : MappedStore} {segment : Nat} :
    mapped.leaves = some segment ↔
      mapped.ownsSegment = true ∧ mapped.isClosed = false ∧ mapped.segment = segment := by
  unfold MappedStore.leaves
  cases mapped.ownsSegment with
  | false => simp
  | true =>
    cases mapped.isClosed with
    | true => simp
    | false => simp

theorem ShmInv.refuse (h : ShmInv boot history s) {shm : SharedMemory} {error : ODSException}
    {name : String} {capacityBytes : Nat} {create replaceExisting : Bool}
    {failure : Option ShmFailure}
    (hconstruct : MappedStore.construct s.shm name capacityBytes create replaceExisting failure =
      (.error error, shm)) :
    ShmInv boot (history ++ [.refused (create && replaceExisting)]) { s with shm := shm } := by
  have hcases := MappedStore.construct_cases s.shm name capacityBytes create replaceExisting failure
  rw [hconstruct] at hcases
  cases hcases with
  | refused hsegments hnames =>
    refine h.of_inherited id hsegments (fun store mapped hstore => ⟨mapped, hstore, .inl rfl⟩) ?_
      (fun store mapped segment hstore _ _ => .inl hstore) ?_
    · intro shmName segment hname
      rcases hnames with hsame | ⟨-, hunlinked⟩
      · rw [← hsame]
        exact hname
      · change shm.names shmName = some segment at hname
        rw [hunlinked] at hname
        exact MappedStore.names_of_unlink hname
    · intro hnot hall
      rcases hnames with hsame | ⟨hreplaces, -⟩
      · dsimp only
        rw [hsame]
        exact hall
      · exact absurd hreplaces hnot

variable [DecidableEq ι]

/-- **A store more.** One that owns its segment has made it. -/
theorem ShmInv.of_constructed (h : ShmInv boot history s) {store : ι} {mapped : MappedStore}
    {shm : SharedMemory} (hnew : s.stores store = none) (hlabel : ¬ label.IsWrite)
    (hsegments : s.shm.segments <+: shm.segments) (hlt : mapped.segment < shm.segments.length)
    (hname_lt : ∀ shmName segment, shm.names shmName = some segment → segment < shm.segments.length)
    (hown : mapped.ownsSegment = true → mapped.segment = s.shm.segments.length ∧
      0 < mapped.capacityBytes ∧
        shm.segments[mapped.segment]? = some (List.replicate mapped.capacityBytes 0))
    (hkept : ∀ shmName segment, shm.names shmName = some segment →
      s.shm.names shmName = some segment ∨
        mapped.leaves = some segment ∧ posixName mapped.name = shmName)
    (hnamed : ¬ label.Replaces → (∀ store mapped, s.stores store = some mapped →
      mapped.leaves = some mapped.segment →
        s.shm.names (posixName mapped.name) = some mapped.segment) →
      (∀ store mapped, s.stores store = some mapped → mapped.leaves = some mapped.segment →
        shm.names (posixName mapped.name) = some mapped.segment) ∧
      (mapped.leaves = some mapped.segment →
        shm.names (posixName mapped.name) = some mapped.segment)) :
    ShmInv boot (history ++ [label]) ⟨shm, Function.update s.stores store (some mapped)⟩ := by
  -- a store is the new one, or one that was there
  have hcases : ∀ {other : ι} {found : MappedStore},
      Function.update s.stores store (some mapped) other = some found →
        (other = store ∧ found = mapped) ∨ s.stores other = some found := by
    intro other found hfound
    by_cases hother : other = store
    · subst hother
      rw [Function.update_self] at hfound
      exact .inl ⟨rfl, (Option.some.inj hfound).symm⟩
    · rw [Function.update_of_ne hother] at hfound
      exact .inr hfound
  have hstays : ∀ {other : ι} {found : MappedStore}, s.stores other = some found →
      Function.update s.stores store (some mapped) other = some found := by
    intro other found hfound
    rw [Function.update_of_ne]
    · exact hfound
    · rintro rfl
      rw [hnew] at hfound
      cases hfound
  refine ⟨?_, hname_lt, ?_, ?_, ?_, ?_, ?_⟩
  · intro other found hfound
    rcases hcases hfound with ⟨-, rfl⟩ | hold
    · exact hlt
    · exact Nat.lt_of_lt_of_le (h.mapped_lt other found hold) hsegments.length_le
  · intro other segment offset data hmem
    rcases List.mem_append.mp hmem with hmem | hmem
    · exact Nat.lt_of_lt_of_le (h.wrote_lt other segment offset data hmem) hsegments.length_le
    · rw [List.mem_singleton] at hmem
      exact absurd (hmem ▸ trivial) hlabel
  · rintro other other' found found' ⟨hfound, howns⟩ ⟨hfound', howns'⟩ hsegment
    rcases hcases hfound with ⟨rfl, rfl⟩ | hold
    · rcases hcases hfound' with ⟨rfl, -⟩ | hold'
      · rfl
      · -- the new segment has a number that no other store has
        have hold_lt := h.mapped_lt other' found' hold'
        rw [← hsegment, (hown howns).1] at hold_lt
        exact absurd hold_lt (Nat.lt_irrefl _)
    · rcases hcases hfound' with ⟨rfl, rfl⟩ | hold'
      · have hold_lt := h.mapped_lt other found hold
        rw [hsegment, (hown howns').1] at hold_lt
        exact absurd hold_lt (Nat.lt_irrefl _)
      · exact h.apart other other' found found' ⟨hold, howns⟩ ⟨hold', howns'⟩ hsegment
  · rintro other found ⟨hfound, howns⟩
    rcases hcases hfound with ⟨-, rfl⟩ | hold
    -- all zeros, as a store that has not been written to
    · obtain ⟨hsegment, hpos, hzeros⟩ := hown howns
      refine ⟨hpos, .create found.name ⟨found.capacityBytes, hpos⟩, ?_, hzeros⟩
      rw [writesTo_of_not_isWrite _ hlabel, hsegment, h.writesTo_new]
      rfl
    · have hprefix : s.shm.segments <+: (ShmSystem.mk shm s.stores).shm.segments := hsegments
      exact h.alone_of_inherited hlabel hprefix
        ⟨found, hold, .inl rfl⟩ howns
  · intro shmName segment hname
    rcases hkept shmName segment hname with hold | ⟨hleaves, hposix⟩
    · rcases h.kept shmName segment hold with
        hboot | ⟨other, found, hfound, hleaves, hposix⟩ | ⟨other, hdied⟩
      · exact .inl hboot
      · exact .inr (.inl ⟨other, found, hstays hfound, hleaves, hposix⟩)
      · exact .inr (.inr ⟨other, List.mem_append_left _ hdied⟩)
    · exact .inr (.inl ⟨store, mapped, Function.update_self _ _ _, hleaves, hposix⟩)
  · intro hnone other found hfound hleaves
    obtain ⟨hbefore, hlast⟩ := List.forall_mem_append.mp hnone
    -- as long as nobody has replaced anything, the names of the others are left alone
    obtain ⟨hothers, hself⟩ := hnamed (hlast label List.mem_cons_self) (h.named hbefore)
    rcases hcases hfound with ⟨-, rfl⟩ | hold
    · exact hself hleaves
    · exact hothers other found hold hleaves

/-! ### The steps -/

theorem ShmInv.construct (h : ShmInv boot history s) {shm : SharedMemory} {mapped : MappedStore}
    {store : ι} {name : String} {capacityBytes : Nat} {create replaceExisting : Bool}
    {failure : Option ShmFailure} (hnew : s.stores store = none)
    (hconstruct : MappedStore.construct s.shm name capacityBytes create replaceExisting failure =
      (.ok mapped, shm)) :
    ShmInv boot (history ++ [.constructed store (create && replaceExisting)])
      ⟨shm, Function.update s.stores store (some mapped)⟩ := by
  have hpos := MappedStore.construct_ok hconstruct
  have hcases := MappedStore.construct_cases s.shm name capacityBytes create replaceExisting failure
  rw [hconstruct] at hcases
  cases hcases with
  | @attached segment hname =>
    refine h.of_constructed hnew id List.prefix_rfl (h.name_lt _ _ hname) h.name_lt ?_
      (fun shmName segment' hname' => .inl hname') fun _ hall => ⟨hall, ?_⟩
    · intro howns
      cases howns
    · intro hleaves
      exact absurd (leaves_eq_some.mp hleaves).1 Bool.false_ne_true
  | created hfree =>
    refine h.of_constructed hnew id (List.prefix_append _ _) ?_ ?_ ?_ ?_ ?_
    · rw [List.length_append]
      exact Nat.lt_succ_self _
    · intro shmName segment hname
      rw [List.length_append]
      dsimp only at hname
      by_cases hsame : shmName = posixName name
      · subst hsame
        rw [Function.update_self] at hname
        rw [← Option.some.inj hname]
        exact Nat.lt_succ_self _
      · rw [Function.update_of_ne hsame] at hname
        exact Nat.lt_succ_of_lt (h.name_lt shmName segment hname)
    · intro _
      exact ⟨rfl, hpos, List.getElem?_concat_length⟩
    · intro shmName segment hname
      dsimp only at hname
      by_cases hsame : shmName = posixName name
      · subst hsame
        rw [Function.update_self] at hname
        exact .inr ⟨leaves_eq_some.mpr ⟨rfl, rfl, Option.some.inj hname⟩, rfl⟩
      · rw [Function.update_of_ne hsame] at hname
        exact .inl hname
    · intro hnot hall
      refine ⟨fun other found hfound hleaves => ?_, fun _ => Function.update_self _ _ _⟩
      -- the name was free, so no open owner has it
      dsimp only
      rw [Function.update_of_ne]
      · exact hall other found hfound hleaves
      · intro hsame
        rcases hfree with hreplaces | hnone
        · exact hnot hreplaces
        · rw [← hsame, hall other found hfound hleaves] at hnone
          cases hnone

/-- The store is closed, and may be gone. -/
theorem ShmInv.release (h : ShmInv boot history s) {mapped : MappedStore} {store : ι}
    (hstore : s.stores store = some mapped) {left : Option MappedStore}
    (hleft : ∀ closed ∈ left, closed = { mapped with isClosed := true }) (hlabel : ¬ label.IsWrite) :
    ShmInv boot (history ++ [label])
      ⟨(mapped.close s.shm).2, Function.update s.stores store left⟩ := by
  have hnames : (mapped.close s.shm).2.names = _ := MappedStore.close_names
  have hold : ∀ {other : ι} {found : MappedStore},
      Function.update s.stores store left other = some found →
        (other = store ∧ found = { mapped with isClosed := true }) ∨
          (other ≠ store ∧ s.stores other = some found) := by
    intro other found hfound
    by_cases hother : other = store
    · subst hother
      rw [Function.update_self] at hfound
      exact .inl ⟨rfl, hleft found hfound⟩
    · rw [Function.update_of_ne hother] at hfound
      exact .inr ⟨hother, hfound⟩
  refine h.of_inherited hlabel ?_ ?_ ?_ ?_ ?_
  · dsimp only
    rw [MappedStore.close_segments]
  · intro other found hfound
    rcases hold hfound with ⟨rfl, hclosed⟩ | ⟨-, hother⟩
    · exact ⟨mapped, hstore, .inr hclosed⟩
    · exact ⟨found, hother, .inl rfl⟩
  · intro shmName segment hname
    dsimp only at hname
    rw [hnames] at hname
    split at hname
    · exact hname
    · exact MappedStore.names_of_unlink hname
  · intro other found segment hfound hleaves hname
    refine .inl ?_
    dsimp only at hname ⊢
    rw [Function.update_of_ne]
    · exact hfound
    · -- the name of the closed one is gone
      rintro rfl
      obtain rfl := Option.some.inj (hfound.symm.trans hstore)
      rw [hnames, if_neg (by rw [hleaves]; exact Option.some_ne_none segment),
        Function.update_self] at hname
      cases hname
  · intro _ hall other found hfound hleaves
    rcases hold hfound with ⟨-, rfl⟩ | ⟨hne, hother⟩
    · exact Bool.noConfusion (leaves_eq_some.mp hleaves).2.1
    · dsimp only
      rw [hnames]
      split
      · exact hall other found hother hleaves
      -- the close gives a name back, which must not be that of another owner
      · next hgives =>
        rw [Function.update_of_ne]
        · exact hall other found hother hleaves
        · -- two owners of one name would share a segment
          intro hsame
          obtain ⟨segment, hsegment⟩ := Option.ne_none_iff_exists'.mp hgives
          obtain ⟨howns, hopen, rfl⟩ := leaves_eq_some.mp hsegment
          have hfirst := hall other found hother hleaves
          rw [hsame, hall store mapped hstore hsegment] at hfirst
          exact hne (h.apart other store found mapped ⟨hother, (leaves_eq_some.mp hleaves).1⟩
            ⟨hstore, howns⟩ (Option.some.inj hfirst).symm)

theorem ShmInv.die (h : ShmInv boot history s) {mapped : MappedStore} {store : ι}
    (hstore : s.stores store = some mapped) :
    ShmInv boot (history ++ [.died store mapped.leaves])
      { s with stores := Function.update s.stores store none } := by
  have hold : ∀ {other : ι} {found : MappedStore},
      Function.update s.stores store none other = some found → s.stores other = some found := by
    intro other found hfound
    by_cases hother : other = store
    · subst hother
      rw [Function.update_self] at hfound
      cases hfound
    · rwa [Function.update_of_ne hother] at hfound
  refine h.of_inherited id List.prefix_rfl
    (fun other found hfound => ⟨found, hold hfound, .inl rfl⟩) (fun _ _ hname => hname) ?_
    fun _ hall other found hfound => hall other found (hold hfound)
  intro other found segment hfound hleaves _
  by_cases hother : other = store
  · subst hother
    obtain rfl := Option.some.inj (hfound.symm.trans hstore)
    exact .inr ⟨other, by rw [hleaves]⟩
  · exact .inl (by dsimp only; rw [Function.update_of_ne hother]; exact hfound)

end Step

/-! ### The writes -/

section Write

variable {boot : SharedMemory} {history : List (ShmLabel ι)} {s : ShmSystem ι}

/-- A store that was open and alone stays open, with its size. -/
theorem isOpen_of_writeAll {writes : List (Nat × List UInt8)} {frameStore after : SharedMemoryFrameStore}
    (hopen : frameStore.isClosed = false) (h : frameStore.writeAll writes = .ok after) :
    after.isClosed = false := by
  induction writes generalizing frameStore with
  | nil =>
    rw [← Except.ok.inj h]
    exact hopen
  | cons write writes ih =>
    unfold SharedMemoryFrameStore.writeAll at h
    rw [List.foldlM_cons] at h
    cases hwrite : frameStore.write write.1 write.2 with
    | error error =>
      rw [hwrite] at h
      cases h
    | ok next =>
      rw [hwrite] at h
      exact ih ((SharedMemoryFrameStore.isClosed_of_write hwrite).trans hopen) h

theorem writeAll_concat {writes : List (Nat × List UInt8)} {frameStore after : SharedMemoryFrameStore}
    (h : frameStore.writeAll writes = .ok after) (offset : Nat) (data : List UInt8) :
    frameStore.writeAll (writes ++ [(offset, data)]) = after.write offset data := by
  unfold SharedMemoryFrameStore.writeAll at h ⊢
  rw [List.foldlM_append, h]
  show after.write offset data >>= pure = _
  rw [bind_pure]

theorem writesTo_wrote (segment : Nat) (history : List (ShmLabel ι)) (store : ι) (offset : Nat)
    (data : List UInt8) :
    writesTo segment (history ++ [.wrote store segment offset data]) =
      writesTo segment history ++ [(offset, data)] := by
  rw [writesTo_concat]
  congr 1
  show (if segment = segment then some (offset, data) else none).toList = _
  rw [if_pos rfl]
  rfl

theorem writesTo_wrote_of_ne {segment segment' : Nat} (h : segment' ≠ segment)
    (history : List (ShmLabel ι)) (store : ι) (offset : Nat) (data : List UInt8) :
    writesTo segment (history ++ [.wrote store segment' offset data]) = writesTo segment history := by
  rw [writesTo_concat]
  show _ ++ (if segment' = segment then some (offset, data) else none).toList = _
  rw [if_neg h]
  exact List.append_nil _

/-- **A write changes its own segment and no other.** -/
theorem ShmInv.write (h : ShmInv boot history s) {shm : SharedMemory} {mapped : MappedStore}
    {store : ι} {offset : Nat} {data bytes : List UInt8} (hstore : s.stores store = some mapped)
    (hbytes : s.shm.segments[mapped.segment]? = some bytes)
    (hbehind : offset + data.length ≤ bytes.length)
    (hwrite : mapped.write s.shm offset data = .ok shm) :
    ShmInv boot (history ++ [.wrote store mapped.segment offset data]) { s with shm := shm } := by
  obtain ⟨-, rfl⟩ := MappedStore.write_ok hwrite
  have hlength : (s.shm.segments.modify mapped.segment
      fun bytes => overwrite bytes offset data).length = s.shm.segments.length :=
    List.length_modify _ _ _
  refine ⟨?_, ?_, ?_, h.apart, ?_, ?_, ?_⟩
  · intro other found hfound
    dsimp only
    rw [hlength]
    exact h.mapped_lt other found hfound
  · intro shmName segment hname
    dsimp only
    rw [hlength]
    exact h.name_lt shmName segment hname
  · intro other segment offset' data' hmem
    dsimp only
    rw [hlength]
    rcases List.mem_append.mp hmem with hmem | hmem
    · exact h.wrote_lt other segment offset' data' hmem
    · rw [List.mem_singleton] at hmem
      obtain ⟨-, rfl, -⟩ := ShmLabel.wrote.inj hmem
      exact h.mapped_lt store mapped hstore
  · intro other found howner
    -- the owner of another segment sees nothing of the write
    obtain ⟨hpos, frameStore, hwrites, harena⟩ := h.alone other found howner
    by_cases hsegment : mapped.segment = found.segment
    · -- the store that is alone makes the same write
      rw [hsegment] at hbytes ⊢
      obtain rfl := Option.some.inj (harena.symm.trans hbytes)
      rw [frameStore.arena_length] at hbehind
      obtain ⟨after, hafter, harena', -⟩ := SharedMemoryFrameStore.write_ok
        (isOpen_of_writeAll rfl hwrites) hbehind
      refine ⟨hpos, after, ?_, ?_⟩
      · rw [writesTo_wrote, writeAll_concat hwrites, hafter]
      · dsimp only
        rw [List.getElem?_modify_eq, harena, harena']
        rfl
    · refine ⟨hpos, frameStore, ?_, ?_⟩
      · rw [writesTo_wrote_of_ne hsegment]
        exact hwrites
      · dsimp only
        rw [List.getElem?_modify_ne _ _ hsegment]
        exact harena
  · intro shmName segment hname
    rcases h.kept shmName segment hname with hboot | hopen | ⟨other, hdied⟩
    · exact .inl hboot
    · exact .inr (.inl hopen)
    · exact .inr (.inr ⟨other, List.mem_append_left _ hdied⟩)
  · intro hnone
    exact h.named (List.forall_mem_append.mp hnone).1

end Write

/-! ### The runs -/

variable [DecidableEq ι]

theorem ShmInv.step {boot : SharedMemory} {history : List (ShmLabel ι)} {s s' : ShmSystem ι}
    {label : ShmLabel ι} (h : ShmInv boot history s) (hstep : ShmStep s label s') :
    ShmInv boot (history ++ [label]) s' := by
  cases hstep with
  | construct hnew hconstruct => exact h.construct hnew hconstruct
  | refuse hconstruct => exact h.refuse hconstruct
  | write hstore hbytes hbehind hwrite => exact h.write hstore hbytes hbehind hwrite
  | fail hstore hwrite =>
    exact h.of_inherited id List.prefix_rfl (fun store mapped hfound => ⟨mapped, hfound, .inl rfl⟩)
      (fun _ _ hname => hname) (fun store mapped segment hfound _ _ => .inl hfound) fun _ hall => hall
  | close hstore =>
    refine h.release hstore ?_ id
    intro closed hclosed
    rw [← Option.some.inj hclosed, MappedStore.close_fst]
  | destroy hstore => exact h.release hstore (fun _ hnone => by cases hnone) id
  | die hstore => exact h.die hstore

/-- No store yet; the names lead to segments that earlier processes have left. -/
def ShmSystem.booted (boot : SharedMemory) : ShmSystem ι :=
  ⟨boot, fun _ => none⟩

end Invariant

end Ods.S4
