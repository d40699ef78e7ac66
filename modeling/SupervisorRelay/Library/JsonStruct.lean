import Mathlib.Data.List.Forall2
import Mathlib.Data.List.Nodup
import SupervisorRelay.Library.JsonRoundTrip

/-! Structs that deny unknown fields. What serde reads them from is an object with each
field once, in any order, or an array of all the fields in theirs. -/
namespace Json

variable {names : List String} {values : List Json} {members : Members}

/-- The members of such a struct, as its reader goes over them. -/
def strictMembers (names : List String) : Json → Option Members
  | .object members =>
      if (members.map Prod.fst).Nodup ∧ ∀ name ∈ members.map Prod.fst, name ∈ names then
        some members
      else none
  | .array items => if items.length = names.length then some (names.zip items) else none
  | _ => none

/-- The two documents of a struct with these values. -/
inductive Spells (names : List String) (values : List Json) : Json → Prop where
  | object {members : Members} (h : members.Perm (names.zip values)) :
      Spells names values (.object members)
  | array : Spells names values (.array values)

theorem mem_iff_lookup (hdistinct : (members.map Prod.fst).Nodup) {key : String} {value : Json} :
    (key, value) ∈ members ↔ members.lookup key = some value := by
  constructor
  · exact fun hmem => lookup_of_mem hdistinct hmem
  · intro h
    obtain ⟨before, after, rfl, -⟩ := List.lookup_eq_some_iff.mp h
    exact List.mem_append_right _ List.mem_cons_self

/-- An object without other names is told by the fields it has. -/
theorem perm_fields_iff (hnames : names.Nodup) (hlength : values.length = names.length) :
    members.Perm (names.zip values) ↔
      ((members.map Prod.fst).Nodup ∧ ∀ name ∈ members.map Prod.fst, name ∈ names) ∧
        ∀ field ∈ names.zip values, members.lookup field.1 = some field.2 := by
  have hkeys : (names.zip values).map Prod.fst = names :=
    List.map_fst_zip (Nat.le_of_eq hlength.symm)
  have hfields : ((names.zip values).map Prod.fst).Nodup := by rwa [hkeys]
  constructor
  · intro h
    have hperm := h.map Prod.fst
    rw [hkeys] at hperm
    have hdistinct : (members.map Prod.fst).Nodup := hperm.nodup_iff.mpr hnames
    refine ⟨⟨hdistinct, fun name hmem => hperm.mem_iff.mp hmem⟩, fun field hmem => ?_⟩
    exact (mem_iff_lookup hdistinct).mp (h.mem_iff.mpr hmem)
  · rintro ⟨⟨hdistinct, hknown⟩, hstored⟩
    refine (List.perm_ext_iff_of_nodup (hdistinct.of_map _) (hfields.of_map _)).mpr ?_
    rintro ⟨name, value⟩
    constructor
    · intro hmem
      have hname : name ∈ (names.zip values).map Prod.fst := by
        rw [hkeys]
        exact hknown name (List.mem_map_of_mem hmem)
      obtain ⟨field, hfield, rfl⟩ := List.mem_map.mp hname
      have hlookup := hstored field hfield
      rw [(mem_iff_lookup hdistinct).mp hmem, Option.some.injEq] at hlookup
      rwa [hlookup]
    · exact fun hmem => (mem_iff_lookup hdistinct).mpr (hstored _ hmem)

/-- A value at its place in the row is the value of its name. -/
theorem lookup_zip (hnames : names.Nodup) {items : List Json} (hitems : items.length = names.length)
    (hlength : values.length = names.length)
    (h : ∀ field ∈ names.zip values, (names.zip items).lookup field.1 = some field.2) :
    items = values := by
  induction names generalizing items values with
  | nil => rw [List.eq_nil_of_length_eq_zero hitems, List.eq_nil_of_length_eq_zero hlength]
  | cons name rest ih =>
      cases items with
      | nil => cases hitems
      | cons item items =>
          cases values with
          | nil => cases hlength
          | cons value values =>
              rw [List.nodup_cons] at hnames
              rw [List.zip_cons_cons, List.zip_cons_cons, List.forall_mem_cons,
                List.lookup_cons_self, Option.some.injEq] at h
              obtain ⟨rfl, hrest⟩ := h
              refine congrArg (item :: ·) (ih hnames.2 (Nat.succ.inj hitems)
                (Nat.succ.inj hlength) fun field hmem => ?_)
              have hmember : field.1 ∈ rest := (List.of_mem_zip hmem).1
              have hne : field.1 ≠ name := fun heq => hnames.1 (heq ▸ hmember)
              have hlookup := hrest field hmem
              rwa [lookup_cons_ne hne] at hlookup

/-- What a reader of all the fields sees. -/
theorem strictMembers_iff (hnames : names.Nodup) (hlength : values.length = names.length)
    {document : Json} :
    (∃ members, strictMembers names document = some members ∧
      ∀ field ∈ names.zip values, members.lookup field.1 = some field.2) ↔
      Spells names values document := by
  have hperm (members : Members) : members.Perm (names.zip values) ↔ _ :=
    perm_fields_iff hnames hlength
  constructor
  · rintro ⟨members, hmembers, hstored⟩
    unfold strictMembers at hmembers
    split at hmembers
    · split at hmembers
      · rename_i hknown
        cases hmembers
        exact .object ((hperm members).mpr ⟨hknown, hstored⟩)
      · cases hmembers
    · rename_i items
      split at hmembers
      · rename_i hitems
        cases hmembers
        rw [lookup_zip hnames hitems hlength hstored]
        exact .array
      · cases hmembers
    · cases hmembers
  · intro h
    cases h with
    | object h =>
        rename_i members
        obtain ⟨hknown, hstored⟩ := (hperm members).mp h
        exact ⟨members, by rw [strictMembers, if_pos hknown], hstored⟩
    | array =>
        exact ⟨names.zip values, by rw [strictMembers, if_pos hlength],
          ((hperm _).mp (List.Perm.refl _)).2⟩

variable {α : Type} {read : Json → Option α}

theorem asStr_eq_some {document : Json} {text : String} :
    document.asStr = some text ↔ document = .string text := by
  cases document <;> simp [asStr]

theorem asBool_eq_some {document : Json} {value : Bool} :
    document.asBool = some value ↔ document = .bool value := by
  cases document <;> simp [asBool]

theorem asU64_eq_some {document : Json} {value : UInt64} :
    document.asU64 = some value ↔ document = ofU64 value := by
  cases document with
  | number number => cases number <;> simp [asU64, ofU64]
  | _ => simp [asU64, ofU64]

theorem readList_eq_some {document : Json} {values : List α} :
    readList read document = some values ↔ ∃ items, document = .array items ∧
      List.Forall₂ (fun item value => read item = some value) items values := by
  cases document with
  | array items =>
      have hall : items.mapM read = some values ↔
          List.Forall₂ (fun item value => read item = some value) items values := by
        induction items generalizing values with
        | nil =>
            simp only [List.mapM_nil, List.forall₂_nil_left_iff]
            exact ⟨fun h => (Option.some.inj h).symm, fun h => h ▸ rfl⟩
        | cons item rest ih =>
            simp only [List.mapM_cons, Option.bind_eq_bind, Option.bind_eq_some_iff, ih,
              List.forall₂_cons_left_iff]
            constructor
            · rintro ⟨value, hvalue, others, hothers, hvalues⟩
              exact ⟨value, others, hvalue, hothers, (Option.some.inj hvalues).symm⟩
            · rintro ⟨value, others, hvalue, hothers, rfl⟩
              exact ⟨value, hvalue, others, hothers, rfl⟩
      simpa [readList] using hall
  | _ => simp [readList]

/-- A required field of one form. -/
theorem required_eq_some {key : String} {value : α} {written : Json}
    (h : ∀ document, read document = some value ↔ document = written) :
    required members key read = some value ↔ members.lookup key = some written := by
  rw [required, Option.bind_eq_some_iff]
  constructor
  · rintro ⟨document, hlookup, hread⟩
    rw [hlookup, (h document).mp hread]
  · exact fun hlookup => ⟨written, hlookup, (h written).mpr rfl⟩

theorem required_str {key text : String} :
    required members key asStr = some text ↔ members.lookup key = some (.string text) :=
  required_eq_some fun _ => asStr_eq_some

theorem required_bool {key : String} {value : Bool} :
    required members key asBool = some value ↔ members.lookup key = some (.bool value) :=
  required_eq_some fun _ => asBool_eq_some

theorem required_u64 {key : String} {value : UInt64} :
    required members key asU64 = some value ↔ members.lookup key = some (ofU64 value) :=
  required_eq_some fun _ => asU64_eq_some

theorem required_list {key : String} {values : List α} :
    required members key (readList read) = some values ↔ ∃ items,
      members.lookup key = some (.array items) ∧
        List.Forall₂ (fun item value => read item = some value) items values := by
  rw [required, Option.bind_eq_some_iff]
  constructor
  · rintro ⟨document, hlookup, hread⟩
    obtain ⟨items, rfl, hitems⟩ := readList_eq_some.mp hread
    exact ⟨items, hlookup, hitems⟩
  · rintro ⟨items, hlookup, hitems⟩
    exact ⟨_, hlookup, readList_eq_some.mpr ⟨items, rfl, hitems⟩⟩

end Json
