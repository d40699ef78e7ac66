import SupervisorRelay.Library.JsonFields

/-! Writers as serde derives them, and the values that a parser gives back for what they
wrote. The members of an object have no order: a parser may sort them. -/
namespace Json

/-- The same value, whatever the order of members. -/
inductive Same : Json → Json → Prop where
  | null : Same .null .null
  | bool (value : Bool) : Same (.bool value) (.bool value)
  | number (value : JsonNumber) : Same (.number value) (.number value)
  | string (value : String) : Same (.string value) (.string value)
  | array {items others : List Json} (h : List.Forall₂ Same items others) :
      Same (.array items) (.array others)
  | object {members others : Members} (distinct : (others.map Prod.fst).Nodup)
      (lookups : ∀ key, Option.Rel Same (members.lookup key) (others.lookup key)) :
      Same (.object members) (.object others)

/-- Each name has the same value on both sides, or none. -/
def SameMembers (members others : Members) : Prop :=
  ∀ key, Option.Rel Same (members.lookup key) (others.lookup key)

/-- Printed and parsed again, the value is the same. -/
def ParsesBack (toString : Json → String) (fromStr : String → Except String Json)
    (value : Json) : Prop :=
  ∃ parsed, fromStr (toString value) = .ok parsed ∧ Same value parsed

/-- `Serialize` of an `Option`. -/
def ofOption {α : Type} (write : α → Json) : Option α → Json
  | none => .null
  | some value => write value

def ofU64 (value : UInt64) : Json :=
  .number (.posInt value)

def ofList {α : Type} (write : α → Json) (items : List α) : Json :=
  .array (items.map write)

/-- A map is an object with a member for each entry, in iteration order. -/
def ofMap {α : Type} (write : α → Json) (entries : HashMap String α) : Json :=
  .object (entries.entries.map fun entry => (entry.1, write entry.2))

/-- The reader finds what the writer wrote. -/
def Reads {α : Type} (read : Json → Option α) (write : α → Json) : Prop :=
  ∀ value json, Same (write value) json → read json = some value

theorem reads_str : Reads asStr .string := by
  intro value json hsame
  cases hsame
  rfl

theorem reads_bool : Reads asBool .bool := by
  intro value json hsame
  cases hsame
  rfl

theorem reads_u64 : Reads asU64 ofU64 := by
  intro value json hsame
  cases hsame
  rfl

variable {α : Type} {read : Json → Option α} {write : α → Json}

theorem reads_list (h : Reads read write) : Reads (readList read) (ofList write) := by
  intro items json hsame
  cases hsame with
  | array hitems =>
      rename_i others
      change others.mapM read = some items
      induction items generalizing others with
      | nil =>
          cases hitems
          rfl
      | cons item rest ih =>
          cases hitems with
          | cons hitem hrest =>
              rw [List.mapM_cons, h item _ hitem, ih hrest]
              rfl

variable {members others : Members} {key : String}

/-- A member on one side has its like on the other. -/
theorem SameMembers.lookup {value : Json} (hsame : SameMembers members others)
    (hmember : members.lookup key = some value) :
    ∃ other, others.lookup key = some other ∧ Same value other := by
  have hkey := hsame key
  rw [hmember] at hkey
  generalize others.lookup key = found at hkey
  cases hkey with
  | some h => exact ⟨_, rfl, h⟩

theorem required_reads (h : Reads read write) (hsame : SameMembers members others) {value : α}
    (hmember : members.lookup key = some (write value)) :
    required others key read = some value := by
  obtain ⟨other, hother, hvalue⟩ := hsame.lookup hmember
  rw [required, hother, Option.bind_some, h value other hvalue]

/-- A field that was written is read, not defaulted. -/
theorem defaulted_written (hsame : SameMembers members others) {written : Json}
    (hmember : members.lookup key = some written) (fallback : α) (read : Json → Option α) :
    ∃ other, Same written other ∧ defaulted others key fallback read = read other := by
  obtain ⟨other, hother, hvalue⟩ := hsame.lookup hmember
  refine ⟨other, hvalue, ?_⟩
  rw [defaulted, hother]

theorem defaulted_reads (h : Reads read write) (hsame : SameMembers members others) {value : α}
    (hmember : members.lookup key = some (write value)) (fallback : α) :
    defaulted others key fallback read = some value := by
  obtain ⟨other, hvalue, hread⟩ := defaulted_written hsame hmember fallback read
  rw [hread, h value other hvalue]

/-- `null` stands for `None`, so a value must not be written as `null`. -/
theorem optional_reads (h : Reads read write) (hnull : ∀ value, write value ≠ .null)
    (hsame : SameMembers members others) {value : Option α}
    (hmember : members.lookup key = some (ofOption write value)) :
    optional others key read = some value := by
  obtain ⟨other, hother, hvalue⟩ := hsame.lookup hmember
  rw [optional, hother]
  cases value with
  | none =>
      cases hvalue
      rfl
  | some stored =>
      have hread := h stored other hvalue
      have hother : other ≠ .null := by
        rintro rfl
        have hwritten : write stored = .null := by
          change Same (write stored) .null at hvalue
          generalize write stored = written at hvalue
          cases hvalue
          rfl
        exact hnull stored hwritten
      cases other with
      | null => exact absurd rfl hother
      | _ => simp [hread]

theorem SameMembers.isSome (hsame : SameMembers members others) (key : String) :
    (others.lookup key).isSome = (members.lookup key).isSome := by
  have hkey := hsame key
  generalize members.lookup key = member at hkey ⊢
  generalize others.lookup key = other at hkey ⊢
  cases hkey <;> rfl

/-- No name appears on one side only. -/
theorem SameMembers.mem_keys (hsame : SameMembers members others) {entry : String × Json}
    (hmem : entry ∈ others) : entry.1 ∈ members.map Prod.fst := by
  have hother : (others.lookup entry.1).isSome = true :=
    List.lookup_isSome_iff.mpr ⟨entry, hmem, beq_self_eq_true _⟩
  rw [hsame.isSome, List.lookup_isSome_iff] at hother
  obtain ⟨member, hmember, hkey⟩ := hother
  rw [beq_iff_eq.mp hkey]
  exact List.mem_map_of_mem hmember

theorem lookup_cons_ne {first : String × Json} {rest : Members} (h : key ≠ first.1) :
    (first :: rest).lookup key = rest.lookup key := by
  rw [List.lookup_cons, beq_eq_false_iff_ne.mpr h]

theorem lookup_of_mem (hdistinct : (others.map Prod.fst).Nodup) {entry : String × Json}
    (hmem : entry ∈ others) : others.lookup entry.1 = some entry.2 := by
  induction others with
  | nil => cases hmem
  | cons first rest ih =>
      rw [List.map_cons, List.nodup_cons] at hdistinct
      rcases List.mem_cons.mp hmem with rfl | hrest
      · exact List.lookup_cons_self
      · have hne : entry.1 ≠ first.1 := by
          intro heq
          exact hdistinct.1 (heq ▸ List.mem_map_of_mem hrest)
        rw [lookup_cons_ne hne]
        exact ih hdistinct.2 hrest

theorem readEntries_lookup (h : ∀ entry ∈ others, (read entry.2).isSome = true) :
    ∃ entries, readEntries read others = some entries ∧
      ∀ key, entries.lookup key = (others.lookup key).bind read := by
  induction others with
  | nil => exact ⟨∅, rfl, fun _ => rfl⟩
  | cons first rest ih =>
      obtain ⟨value, hvalue⟩ := Option.isSome_iff_exists.mp (h first List.mem_cons_self)
      obtain ⟨entries, hentries, hlookups⟩ :=
        ih fun entry hmem => h entry (List.mem_cons_of_mem _ hmem)
      refine ⟨entries.insert first.1 value, ?_, fun key => ?_⟩
      · rw [readEntries, hvalue, hentries]
        rfl
      · rw [HashMap.lookup_insert]
        split
        · rename_i heq
          rw [heq, List.lookup_cons_self, Option.bind_some, hvalue]
        · rename_i hne
          rw [lookup_cons_ne hne]
          exact hlookups key

theorem lookup_ofMap (write : α → Json) (map : HashMap String α) (key : String) :
    (map.entries.map fun entry => (entry.1, write entry.2)).lookup key =
      (map.lookup key).map write := by
  unfold AList.lookup
  induction map.entries with
  | nil => rfl
  | cons first rest ih =>
      by_cases heq : first.1 = key
      · subst heq
        rw [List.map_cons, List.lookup_cons_self, List.dlookup_cons_eq]
        rfl
      · rw [List.map_cons, lookup_cons_ne (Ne.symm heq), ih,
          List.dlookup_cons_ne _ _ (Ne.symm heq)]

theorem Reads.bind (h : Reads read write) {value : Option α} {other : Option Json}
    (hrel : Option.Rel Same (value.map write) other) : other.bind read = value := by
  cases value with
  | none =>
      cases hrel
      rfl
  | some stored =>
      rw [Option.map_some] at hrel
      cases hrel with
      | some hvalue => exact h stored _ hvalue

/-- A map comes back with the same entries, in an order of its own. -/
theorem readMap_ofMap (h : Reads read write) {map : HashMap String α} {json : Json}
    (hsame : Same (ofMap write map) json) :
    ∃ entries, readMap read json = some entries ∧ ∀ key, entries.lookup key = map.lookup key := by
  cases hsame with
  | object hdistinct hlookups =>
      rename_i others
      have hread (key : String) : (others.lookup key).bind read = map.lookup key := by
        apply h.bind
        rw [← lookup_ofMap]
        exact hlookups key
      have hall : ∀ entry ∈ others, (read entry.2).isSome = true := by
        intro entry hmem
        have hstored := lookup_of_mem hdistinct hmem
        have hsome := SameMembers.isSome hlookups entry.1
        have hvalue := hread entry.1
        rw [hstored, Option.bind_some] at hvalue
        rw [hstored, lookup_ofMap, Option.isSome_map] at hsome
        rw [hvalue, ← hsome]
        rfl
      obtain ⟨entries, hentries, hlookup⟩ := readEntries_lookup hall
      exact ⟨entries, hentries, fun key => (hlookup key).trans (hread key)⟩

theorem Same.getPath {value other member : Json} {path : List String} (h : Same value other)
    (hmember : value.getPath path = some member) :
    ∃ found, other.getPath path = some found ∧ Same member found := by
  induction path generalizing value other with
  | nil =>
      cases hmember
      exact ⟨other, rfl, h⟩
  | cons key rest ih =>
      obtain ⟨inner, hinner, hrest⟩ := Option.bind_eq_some_iff.mp hmember
      cases h with
      | object hdistinct hlookups =>
          obtain ⟨next, hnext, hsame⟩ := SameMembers.lookup hlookups hinner
          obtain ⟨found, hfound, hmember⟩ := ih hsame hrest
          exact ⟨found, Option.bind_eq_some_iff.mpr ⟨next, hnext, hfound⟩, hmember⟩
      | _ => cases hinner

theorem Same.getPath_str {value other : Json} {path : List String} {text : String}
    (h : Same value other) (hmember : value.getPath path = some (.string text)) :
    other.getPath path = some (.string text) := by
  obtain ⟨found, hfound, hsame⟩ := h.getPath hmember
  cases hsame
  exact hfound

theorem Same.getPath_bool {value other : Json} {path : List String} {flag : Bool}
    (h : Same value other) (hmember : value.getPath path = some (.bool flag)) :
    other.getPath path = some (.bool flag) := by
  obtain ⟨found, hfound, hsame⟩ := h.getPath hmember
  cases hsame
  exact hfound

end Json
