import Mathlib.Data.String.Basic
import Mathlib.Order.Lattice
import SupervisorRelay.Library.JsonRoundTrip

/-! JSON values between their writers and their readers. A reader keeps the members of an
object in the order of their names and nests to a limit; what was written with integers only,
not too deep and with each name once comes back as the same value. -/
namespace Json

/-- `BTreeMap::insert`. -/
def insertMember (key : String) (value : Json) : Members → Members
  | [] => [(key, value)]
  | (other, stored) :: rest =>
      if key = other then (key, value) :: rest
      else if key < other then (key, value) :: (other, stored) :: rest
      else (other, stored) :: insertMember key value rest

mutual

/-- The value as a reader holds it. -/
def normalize : Json → Json
  | .array items => .array (normalizeItems items)
  | .object members => .object (normalizeMembers members [])
  | value => value

def normalizeItems : List Json → List Json
  | [] => []
  | item :: rest => normalize item :: normalizeItems rest

def normalizeMembers : Members → Members → Members
  | [], done => done
  | (key, value) :: rest, done => normalizeMembers rest (insertMember key (normalize value) done)

end

/-- How many containers a reader opens inside each other. -/
def depthLimit : Nat := 127

mutual

def depth : Json → Nat
  | .array items => itemsDepth items + 1
  | .object members => membersDepth members + 1
  | _ => 0

def itemsDepth : List Json → Nat
  | [] => 0
  | item :: rest => max (depth item) (itemsDepth rest)

def membersDepth : Members → Nat
  | [] => 0
  | (_, value) :: rest => max (depth value) (membersDepth rest)

end

/-- The integers as a value holds them: the negative type is for negative numbers. -/
def IsInteger : JsonNumber → Prop
  | .posInt _ => True
  | .negInt value => value.toInt < 0
  | .float _ => False

mutual

/-- The value has no number that is not an integer. -/
def FloatFree : Json → Prop
  | .number value => IsInteger value
  | .array items => FloatFreeItems items
  | .object members => FloatFreeMembers members
  | _ => True

def FloatFreeItems : List Json → Prop
  | [] => True
  | item :: rest => FloatFree item ∧ FloatFreeItems rest

def FloatFreeMembers : Members → Prop
  | [] => True
  | (_, value) :: rest => FloatFree value ∧ FloatFreeMembers rest

end

instance : DecidablePred IsInteger
  | .posInt _ => isTrue trivial
  | .negInt value => inferInstanceAs (Decidable (value.toInt < 0))
  | .float _ => isFalse id

mutual

def decideFloatFree : (value : Json) → Decidable (FloatFree value)
  | .null => isTrue trivial
  | .bool _ => isTrue trivial
  | .number value => inferInstanceAs (Decidable (IsInteger value))
  | .string _ => isTrue trivial
  | .array items => decideFloatFreeItems items
  | .object members => decideFloatFreeMembers members

def decideFloatFreeItems : (items : List Json) → Decidable (FloatFreeItems items)
  | [] => isTrue trivial
  | item :: rest => @instDecidableAnd _ _ (decideFloatFree item) (decideFloatFreeItems rest)

def decideFloatFreeMembers : (members : Members) → Decidable (FloatFreeMembers members)
  | [] => isTrue trivial
  | (_, value) :: rest =>
      @instDecidableAnd _ _ (decideFloatFree value) (decideFloatFreeMembers rest)

end

instance : DecidablePred FloatFree := decideFloatFree

mutual

/-- No object has two members of one name. -/
def Distinct : Json → Prop
  | .array items => DistinctItems items
  | .object members => (members.map Prod.fst).Nodup ∧ DistinctMembers members
  | _ => True

def DistinctItems : List Json → Prop
  | [] => True
  | item :: rest => Distinct item ∧ DistinctItems rest

def DistinctMembers : Members → Prop
  | [] => True
  | (_, value) :: rest => Distinct value ∧ DistinctMembers rest

end

/-! The value held is the value written, up to the order of members. -/

/-- The names are in order, each of them once. -/
def Sorted (members : Members) : Prop :=
  (members.map Prod.fst).Pairwise (· < ·)

theorem lookup_member (key other : String) (value : Json) (members : Members) :
    ((key, value) :: members).lookup other =
      if other = key then some value else members.lookup other := by
  rw [List.lookup_cons]
  by_cases h : other = key
  · rw [if_pos h, h, beq_self_eq_true]
  · rw [if_neg h, beq_eq_false_iff_ne.mpr h]

theorem lookup_insertMember (key other : String) (value : Json) (members : Members) :
    (insertMember key value members).lookup other =
      if other = key then some value else members.lookup other := by
  induction members with
  | nil => rw [insertMember, lookup_member]
  | cons member rest ih =>
      obtain ⟨stored, old⟩ := member
      rw [insertMember]
      split
      · rename_i hkey
        rw [lookup_member, lookup_member]
        split <;> simp_all
      split
      · rw [lookup_member]
      · rename_i hkey _
        rw [lookup_member, lookup_member, ih]
        by_cases hstored : other = stored
        · have hne : other ≠ key := fun h => hkey (h.symm.trans hstored)
          rw [if_pos hstored, if_neg hne, if_pos hstored]
        · rw [if_neg hstored, if_neg hstored]

theorem mem_keys_insertMember {key other : String} {value : Json} {members : Members}
    (h : other ∈ (insertMember key value members).map Prod.fst) :
    other = key ∨ other ∈ members.map Prod.fst := by
  induction members with
  | nil => simpa [insertMember] using h
  | cons member rest ih =>
      obtain ⟨stored, old⟩ := member
      rw [insertMember] at h
      split at h
      · rename_i hkey
        subst hkey
        simpa using h
      split at h
      · simpa using h
      · rw [List.map_cons, List.mem_cons] at h
        rcases h with rfl | h
        · exact .inr (by simp)
        · exact (ih h).imp_right (List.mem_cons_of_mem stored)

theorem Sorted.insertMember {members : Members} (h : Sorted members) (key : String)
    (value : Json) : Sorted (insertMember key value members) := by
  induction members with
  | nil => exact List.pairwise_singleton _ _
  | cons member rest ih =>
      obtain ⟨stored, old⟩ := member
      obtain ⟨hfirst, hrest⟩ := List.pairwise_cons.mp h
      rw [Json.insertMember]
      split
      · rename_i hkey
        subst hkey
        exact h
      split
      · rename_i hlt
        refine List.pairwise_cons.mpr ⟨fun other hmem => ?_, h⟩
        rcases List.mem_cons.mp hmem with rfl | hmem
        · exact hlt
        · exact hlt.trans (hfirst other hmem)
      · rename_i hne hnlt
        refine List.pairwise_cons.mpr ⟨fun other hmem => ?_, ih hrest⟩
        rcases mem_keys_insertMember hmem with rfl | hmem
        · exact lt_of_le_of_ne (not_lt.mp hnlt) (Ne.symm hne)
        · exact hfirst other hmem

theorem sorted_normalizeMembers {members done : Members} (h : Sorted done) :
    Sorted (normalizeMembers members done) := by
  induction members generalizing done with
  | nil => exact h
  | cons member rest ih => exact ih (h.insertMember member.1 (normalize member.2))

theorem lookup_normalizeMembers {members : Members}
    (hdistinct : (members.map Prod.fst).Nodup) (done : Members) (key : String) :
    (normalizeMembers members done).lookup key =
      ((members.lookup key).map normalize).or (done.lookup key) := by
  induction members generalizing done with
  | nil => rfl
  | cons member rest ih =>
      obtain ⟨name, value⟩ := member
      obtain ⟨hname, hrest⟩ := List.nodup_cons.mp hdistinct
      rw [normalizeMembers, ih hrest, lookup_insertMember, lookup_member]
      by_cases hkey : key = name
      · have hnone : rest.lookup key = none := by
          refine List.lookup_eq_none_iff.mpr fun other hmem => ?_
          rw [bne_iff_ne]
          intro hother
          rw [← hkey, hother] at hname
          exact hname (List.mem_map.mpr ⟨other, hmem, rfl⟩)
        rw [if_pos hkey, if_pos hkey, hnone]
        rfl
      · rw [if_neg hkey, if_neg hkey]

theorem distinct_lookup {members : Members} {key : String} {value : Json}
    (h : DistinctMembers members) (hlookup : members.lookup key = some value) :
    Distinct value := by
  induction members with
  | nil => cases hlookup
  | cons member rest ih =>
      rw [lookup_member] at hlookup
      split at hlookup
      · cases hlookup
        exact h.1
      · exact ih h.2 hlookup

mutual

theorem same_normalize :
    (value : Json) → Distinct value → Same value (normalize value)
  | .null, _ => .null
  | .bool value, _ => .bool value
  | .number value, _ => .number value
  | .string value, _ => .string value
  | .array items, h => .array (same_normalizeItems items h)
  | .object members, h => by
      have hsorted : Sorted (normalizeMembers members []) :=
        sorted_normalizeMembers List.Pairwise.nil
      refine .object (hsorted.imp fun hlt => ne_of_lt hlt) fun key => ?_
      rw [lookup_normalizeMembers h.1, List.lookup_nil, Option.or_none]
      exact same_lookup members h.2 key

theorem same_normalizeItems :
    (items : List Json) → DistinctItems items →
      List.Forall₂ Same items (normalizeItems items)
  | [], _ => .nil
  | item :: rest, h => .cons (same_normalize item h.1) (same_normalizeItems rest h.2)

theorem same_lookup :
    (members : Members) → DistinctMembers members → ∀ key,
      Option.Rel Same (members.lookup key) ((members.lookup key).map normalize)
  | [], _, _ => .none
  | (name, value) :: rest, h, key => by
      rw [lookup_member]
      split
      · exact .some (same_normalize value h.1)
      · exact same_lookup rest h.2 key

end

theorem get_normalize {value : Json} (h : Distinct value) (key : String) :
    (normalize value).get key = (value.get key).map normalize := by
  cases value with
  | object members =>
      change (normalizeMembers members []).lookup key = _
      rw [lookup_normalizeMembers h.1, List.lookup_nil, Option.or_none]
      rfl
  | _ => rfl

theorem distinct_get {value member : Json} {key : String} (h : Distinct value)
    (hget : value.get key = some member) : Distinct member := by
  cases value with
  | object members => exact distinct_lookup h.2 hget
  | _ => cases hget

/-! A value that was read is in the reader's order already. -/

/-- The values of an object as the reader holds them. -/
def Settled (members : Members) : Prop :=
  ∀ member ∈ members, normalize member.2 = member.2

theorem insertMember_last {key : String} {members : Members}
    (h : ∀ member ∈ members, member.1 < key) (value : Json) :
    insertMember key value members = members ++ [(key, value)] := by
  induction members with
  | nil => rfl
  | cons member rest ih =>
      have hlt := h member List.mem_cons_self
      rw [insertMember, if_neg (ne_of_gt hlt), if_neg (not_lt_of_gt hlt),
        ih fun other hmem => h other (List.mem_cons_of_mem member hmem)]
      rfl

theorem mem_insertMember {key : String} {value : Json} {members : Members}
    {member : String × Json} (h : member ∈ insertMember key value members) :
    member = (key, value) ∨ member ∈ members := by
  induction members with
  | nil => exact .inl (by simpa [insertMember] using h)
  | cons first rest ih =>
      rw [insertMember] at h
      split at h
      · rcases List.mem_cons.mp h with rfl | hrest
        · exact .inl rfl
        · exact .inr (List.mem_cons_of_mem first hrest)
      split at h
      · exact List.mem_cons.mp h
      · rcases List.mem_cons.mp h with rfl | hrest
        · exact .inr List.mem_cons_self
        · exact (ih hrest).imp_right (List.mem_cons_of_mem first)

/-- Members in order stay where they are. -/
theorem normalizeMembers_sorted {members done : Members} (h : Sorted (done ++ members))
    (hsettled : Settled members) :
    normalizeMembers members done = done ++ members := by
  induction members generalizing done with
  | nil => rw [normalizeMembers, List.append_nil]
  | cons member rest ih =>
      have hlast : ∀ other ∈ done, other.1 < member.1 := by
        intro other hmem
        rw [Sorted, List.map_append, List.pairwise_append] at h
        exact h.2.2 _ (List.mem_map_of_mem hmem) _ List.mem_cons_self
      rw [normalizeMembers, hsettled member List.mem_cons_self, insertMember_last hlast,
        ih (by rwa [List.append_assoc]) fun other hmem =>
          hsettled other (List.mem_cons_of_mem member hmem), List.append_assoc]
      rfl

theorem normalize_sorted {members : Members} (h : Sorted members) (hsettled : Settled members) :
    normalize (.object members) = .object members := by
  rw [normalize, normalizeMembers_sorted (by rwa [List.nil_append]) hsettled, List.nil_append]

mutual

theorem normalize_normalize :
    (value : Json) → normalize (normalize value) =
      normalize value
  | .null => rfl
  | .bool _ => rfl
  | .number _ => rfl
  | .string _ => rfl
  | .array items => by rw [normalize, normalize, normalizeItems_normalizeItems items]
  | .object members => by
      rw [normalize]
      exact normalize_sorted (sorted_normalizeMembers List.Pairwise.nil)
        (settled_normalizeMembers members [] fun _ hmem => by cases hmem)

theorem normalizeItems_normalizeItems :
    (items : List Json) → normalizeItems (normalizeItems items) =
      normalizeItems items
  | [] => rfl
  | item :: rest => by
      rw [normalizeItems, normalizeItems, normalize_normalize item,
        normalizeItems_normalizeItems rest]

theorem settled_normalizeMembers :
    (members done : Members) → Settled done → Settled (normalizeMembers members done)
  | [], _, h => h
  | (key, value) :: rest, done, h => by
      refine settled_normalizeMembers rest _ fun member hmem => ?_
      rcases mem_insertMember hmem with rfl | hdone
      · exact normalize_normalize value
      · exact h member hdone

end

/-! What a value owes to its parts. -/

theorem itemsDepth_le {limit : Nat} {items : List Json} (h : ∀ item ∈ items, depth item ≤ limit) :
    itemsDepth items ≤ limit := by
  induction items with
  | nil => exact Nat.zero_le limit
  | cons item rest ih =>
      rw [itemsDepth, Nat.max_le]
      exact ⟨h item List.mem_cons_self, ih fun other hmem => h other (List.mem_cons_of_mem _ hmem)⟩

theorem membersDepth_le {limit : Nat} {members : Members}
    (h : ∀ member ∈ members, depth member.2 ≤ limit) : membersDepth members ≤ limit := by
  induction members with
  | nil => exact Nat.zero_le limit
  | cons member rest ih =>
      rw [membersDepth, Nat.max_le]
      exact ⟨h member List.mem_cons_self,
        ih fun other hmem => h other (List.mem_cons_of_mem _ hmem)⟩

theorem distinctItems {items : List Json} (h : ∀ item ∈ items, Distinct item) :
    DistinctItems items := by
  induction items with
  | nil => trivial
  | cons item rest ih =>
      exact ⟨h item List.mem_cons_self, ih fun other hmem => h other (List.mem_cons_of_mem _ hmem)⟩

theorem distinctMembers {members : Members} (h : ∀ member ∈ members, Distinct member.2) :
    DistinctMembers members := by
  induction members with
  | nil => trivial
  | cons member rest ih =>
      exact ⟨h member List.mem_cons_self,
        ih fun other hmem => h other (List.mem_cons_of_mem _ hmem)⟩

theorem floatFreeItems {items : List Json} (h : ∀ item ∈ items, FloatFree item) :
    FloatFreeItems items := by
  induction items with
  | nil => trivial
  | cons item rest ih =>
      exact ⟨h item List.mem_cons_self, ih fun other hmem => h other (List.mem_cons_of_mem _ hmem)⟩

theorem floatFreeMembers {members : Members} (h : ∀ member ∈ members, FloatFree member.2) :
    FloatFreeMembers members := by
  induction members with
  | nil => trivial
  | cons member rest ih =>
      exact ⟨h member List.mem_cons_self,
        ih fun other hmem => h other (List.mem_cons_of_mem _ hmem)⟩

theorem depth_le_of_mem {members : Members} {member : String × Json} (h : member ∈ members) :
    depth member.2 ≤ membersDepth members := by
  induction members with
  | nil => cases h
  | cons first rest ih =>
      rw [membersDepth]
      rcases List.mem_cons.mp h with rfl | hrest
      · exact Nat.le_max_left _ _
      · exact (ih hrest).trans (Nat.le_max_right _ _)

theorem normalizeItems_settled {items : List Json} (h : ∀ item ∈ items, normalize item = item) :
    normalizeItems items = items := by
  induction items with
  | nil => rfl
  | cons item rest ih =>
      rw [normalizeItems, h item List.mem_cons_self,
        ih fun other hmem => h other (List.mem_cons_of_mem _ hmem)]

/-- A value with integers only, of bounded depth, with each name once in an object. -/
structure Fits (limit : Nat) (value : Json) : Prop where
  floatFree : FloatFree value
  shallow : depth value ≤ limit
  distinct : Distinct value

namespace Fits

variable {limit : Nat}

theorem null : Fits limit .null := ⟨trivial, Nat.zero_le limit, trivial⟩

theorem bool (value : Bool) : Fits limit (.bool value) := ⟨trivial, Nat.zero_le limit, trivial⟩

theorem string (value : String) : Fits limit (.string value) :=
  ⟨trivial, Nat.zero_le limit, trivial⟩

theorem integer {value : JsonNumber} (h : IsInteger value) : Fits limit (.number value) :=
  ⟨h, Nat.zero_le limit, trivial⟩

theorem array {items : List Json} (h : ∀ item ∈ items, Fits limit item) :
    Fits (limit + 1) (.array items) where
  floatFree := floatFreeItems fun item hmem => (h item hmem).floatFree
  shallow := Nat.succ_le_succ (itemsDepth_le fun item hmem => (h item hmem).shallow)
  distinct := distinctItems fun item hmem => (h item hmem).distinct

theorem object {members : Members} (hnames : (members.map Prod.fst).Nodup)
    (h : ∀ member ∈ members, Fits limit member.2) : Fits (limit + 1) (.object members) where
  floatFree := floatFreeMembers fun member hmem => (h member hmem).floatFree
  shallow := Nat.succ_le_succ (membersDepth_le fun member hmem => (h member hmem).shallow)
  distinct := ⟨hnames, distinctMembers fun member hmem => (h member hmem).distinct⟩

/-- An object whose names are these, told apart. -/
theorem named {members : Members} (names : List String) (hnames : members.map Prod.fst = names)
    (hnodup : names.Nodup) (h : ∀ member ∈ members, Fits limit member.2) :
    Fits (limit + 1) (.object members) := by
  subst hnames
  exact object hnodup h

theorem mono {limit' : Nat} {value : Json} (h : Fits limit value) (hle : limit ≤ limit') :
    Fits limit' value :=
  ⟨h.floatFree, h.shallow.trans hle, h.distinct⟩

end Fits

/-- A value that fits and stands in the order of a reader. -/
structure Neat (limit : Nat) (value : Json) : Prop where
  fits : Fits limit value
  settled : normalize value = value

namespace Neat

variable {limit : Nat}

theorem null : Neat limit .null := ⟨Fits.null, rfl⟩

theorem bool (value : Bool) : Neat limit (.bool value) := ⟨Fits.bool value, rfl⟩

theorem string (value : String) : Neat limit (.string value) := ⟨Fits.string value, rfl⟩

theorem integer {value : JsonNumber} (h : IsInteger value) : Neat limit (.number value) :=
  ⟨Fits.integer h, rfl⟩

theorem option (value : Option String) : Neat limit (ofOption .string value) := by
  cases value with
  | none => exact null
  | some text => exact string text

/-- An object whose names are these, in order. -/
theorem object {members : Members} (names : List String) (hnames : members.map Prod.fst = names)
    (hsorted : names.Pairwise (· < ·)) (h : ∀ member ∈ members, Neat limit member.2) :
    Neat (limit + 1) (.object members) := by
  subst hnames
  refine ⟨Fits.object (hsorted.imp fun hlt => ne_of_lt hlt) fun member hmem =>
    (h member hmem).fits, normalize_sorted hsorted fun member hmem => (h member hmem).settled⟩

end Neat

/-- A value as a reader leaves it: shallow, in its order, with each name once in an object. -/
structure Accepted (limit : Nat) (value : Json) : Prop where
  shallow : depth value ≤ limit
  settled : normalize value = value
  distinct : Distinct value

namespace Accepted

variable {limit : Nat} {read part : Json}

/-- A part of what was read is one level less deep. -/
theorem get {key : String} (h : Accepted (limit + 1) read) (hget : read.get key = some part) :
    Accepted limit part := by
  cases read with
  | object members =>
      obtain ⟨before, after, hsplit, -⟩ := List.lookup_eq_some_iff.mp hget
      have hmem : (key, part) ∈ members := by simp [hsplit]
      have hsettled : Settled members := by
        have hall := settled_normalizeMembers members [] fun _ hmem => by cases hmem
        rwa [Json.object.inj h.settled] at hall
      have hdepth := h.shallow
      rw [depth] at hdepth
      exact ⟨(depth_le_of_mem hmem).trans (Nat.le_of_succ_le_succ hdepth), hsettled _ hmem,
        distinct_get h.distinct hget⟩
  | _ => cases hget

/-- It can be written again wherever it has no floats. -/
theorem fits (h : Accepted limit read) (hfloats : FloatFree read) : Fits limit read :=
  ⟨hfloats, h.shallow, h.distinct⟩

end Accepted

end Json
