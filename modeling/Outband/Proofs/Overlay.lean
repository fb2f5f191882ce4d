import Outband.Config.Layout
import Mathlib.Data.String.Basic
/-! Trees laid over each other, path by path. What the cover holds at a path is what stands there,
and where it says nothing the base shows through. -/

namespace Outband.Json

/-- In every object of the tree each name stands once, in order. -/
inductive Tidy : Json → Prop where
  | null : Tidy .null
  | bool (value : Bool) : Tidy (.bool value)
  | int (value : Int) : Tidy (.int value)
  | double (negative : Bool) (magnitude : Double) : Tidy (.double negative magnitude)
  | text (value : String) : Tidy (.text value)
  | array {items : List Json} (inner : ∀ item ∈ items, Tidy item) : Tidy (.array items)
  | object {members : List (String × Json)} (ordered : members.Pairwise (·.1 < ·.1))
      (inner : ∀ member ∈ members, Tidy member.2) : Tidy (.object members)

/-- What a path of names leads to. -/
def at? : Json → List String → Option Json
  | tree, [] => some tree
  | tree, name :: path => (tree.member? name).bind (at? · path)

variable {base cover value : Json} {name other : String}
  {members below above : List (String × Json)} {path : List String}

/-! Members. -/

theorem lookup_insert (name other : String) (value : Json) (members : List (String × Json)) :
    (insert name value members).lookup other =
      if other = name then some value else members.lookup other := by
  have hcons : ∀ rest, ((name, value) :: rest).lookup other =
      if other = name then some value else rest.lookup other := by
    intro rest
    by_cases h : other = name <;> simp [List.lookup_cons, h, beq_eq_false_iff_ne.mpr]
  induction members with
  | nil => exact hcons []
  | cons member rest ih =>
    obtain ⟨n, v⟩ := member
    rw [insert]
    split
    · exact hcons _
    · split
      · rename_i heq
        subst heq
        rw [hcons, List.lookup_cons]
        by_cases h : other = name <;> simp [h, beq_eq_false_iff_ne.mpr]
      · rename_i hne
        rw [List.lookup_cons, List.lookup_cons, ih]
        by_cases h : other = n
        · subst h
          simp [Ne.symm hne]
        · simp [beq_eq_false_iff_ne.mpr h]

theorem mem_insert {member : String × Json} (h : member ∈ insert name value members) :
    member = (name, value) ∨ member ∈ members := by
  induction members with
  | nil => exact Or.inl (List.mem_singleton.mp h)
  | cons first rest ih =>
    obtain ⟨n, v⟩ := first
    rw [insert] at h
    split at h
    · exact List.mem_cons.mp h
    · split at h
      · rcases List.mem_cons.mp h with heq | hrest
        · exact Or.inl heq
        · exact Or.inr (List.mem_cons_of_mem _ hrest)
      · rcases List.mem_cons.mp h with heq | hrest
        · exact Or.inr (heq ▸ List.mem_cons_self)
        · exact (ih hrest).imp_right (List.mem_cons_of_mem _)

theorem pairwise_insert (h : members.Pairwise (·.1 < ·.1)) :
    (insert name value members).Pairwise (·.1 < ·.1) := by
  induction members with
  | nil => exact List.pairwise_singleton _ _
  | cons member rest ih =>
    obtain ⟨n, v⟩ := member
    obtain ⟨hfirst, hrest⟩ := List.pairwise_cons.mp h
    rw [insert]
    split
    · rename_i hlt
      refine List.pairwise_cons.mpr ⟨fun later hlater => ?_, h⟩
      rcases List.mem_cons.mp hlater with rfl | hlater
      · exact hlt
      · exact String.lt_trans hlt (hfirst later hlater)
    · split
      · rename_i heq
        subst heq
        exact List.pairwise_cons.mpr ⟨hfirst, hrest⟩
      · rename_i hnlt hne
        refine List.pairwise_cons.mpr ⟨fun later hlater => ?_, ih hrest⟩
        rcases mem_insert hlater with rfl | hlater
        · exact (lt_or_gt_of_ne hne).resolve_left hnlt
        · exact hfirst later hlater

theorem Tidy.insert (h : Tidy (.object members)) (hvalue : value.Tidy) :
    Tidy (.object (Json.insert name value members)) := by
  cases h with
  | object ordered inner =>
    refine .object (pairwise_insert ordered) fun member hmember => ?_
    rcases mem_insert hmember with rfl | hmember
    · exact hvalue
    · exact inner member hmember

theorem lookup_of_mem (h : members.Pairwise (·.1 < ·.1)) (hmem : (name, value) ∈ members) :
    members.lookup name = some value := by
  induction members with
  | nil => cases hmem
  | cons member rest ih =>
    obtain ⟨hfirst, hrest⟩ := List.pairwise_cons.mp h
    rcases List.mem_cons.mp hmem with rfl | hmem
    · simp
    · have hne : name ≠ member.1 := fun heq =>
        String.lt_irrefl _ (heq ▸ hfirst (name, value) hmem)
      rw [List.lookup_cons, beq_eq_false_iff_ne.mpr hne]
      exact ih hrest hmem

theorem mem_of_lookup (h : members.lookup name = some value) : (name, value) ∈ members := by
  obtain ⟨before, after, rfl, -⟩ := List.lookup_eq_some_iff.mp h
  exact List.mem_append_cons_self

/-- A member that is there already changes nothing when it is entered again. -/
theorem insert_of_lookup (h : members.Pairwise (·.1 < ·.1))
    (hlookup : members.lookup name = some value) : insert name value members = members := by
  induction members with
  | nil => cases hlookup
  | cons member rest ih =>
    obtain ⟨n, v⟩ := member
    obtain ⟨hfirst, hrest⟩ := List.pairwise_cons.mp h
    rw [List.lookup_cons] at hlookup
    by_cases heq : name = n
    · subst heq
      obtain rfl : v = value := by simpa using hlookup
      rw [insert, if_neg (String.lt_irrefl _), if_pos rfl]
    · rw [beq_eq_false_iff_ne.mpr heq] at hlookup
      have hlt : n < name := hfirst (name, value) (mem_of_lookup hlookup)
      rw [insert, if_neg (lt_asymm hlt), if_neg heq, ih hrest hlookup]

/-! One object over another. -/

open overlay (overlayMembers)

theorem overlay_of_not_object (h : cover.isObject = false) : base.overlay cover = cover := by
  unfold overlay
  split
  · cases h
  · rfl

theorem overlay_of_base_not_object (h : base.isObject = false) : base.overlay cover = cover := by
  unfold overlay
  split
  · cases h
  · rfl

/-- Names are merged one by one, as long as the cover has each of them once. -/
theorem lookup_overlayMembers (h : above.Pairwise (·.1 < ·.1)) :
    (overlayMembers below above).lookup name =
      Option.merge overlay (below.lookup name) (above.lookup name) := by
  induction above generalizing below with
  | nil => rw [overlayMembers, List.lookup_nil, Option.merge_none_right]
  | cons member rest ih =>
    obtain ⟨n, v⟩ := member
    obtain ⟨hfirst, hrest⟩ := List.pairwise_cons.mp h
    rw [overlayMembers, ih hrest, lookup_insert, List.lookup_cons]
    by_cases heq : name = n
    · subst heq
      have hlater : rest.lookup name = none := by
        rw [List.lookup_eq_none_iff]
        intro later hlater
        exact bne_iff_ne.mpr fun heq => String.lt_irrefl _ (heq ▸ hfirst later hlater)
      rw [if_pos rfl, beq_self_eq_true, hlater]
      cases below.lookup name <;> rfl
    · rw [if_neg heq, beq_eq_false_iff_ne.mpr heq]

theorem tidy_overlayMembers (h : Tidy (.object below))
    (hcover : ∀ member ∈ above,
      member.2.Tidy ∧ ∀ old : Json, old.Tidy → (old.overlay member.2).Tidy) :
    Tidy (.object (overlayMembers below above)) := by
  induction above generalizing below with
  | nil =>
    rw [overlayMembers]
    exact h
  | cons member rest ih =>
    obtain ⟨hvalue, hover⟩ := hcover member List.mem_cons_self
    rw [overlayMembers]
    refine ih (h.insert ?_) fun later hlater => hcover later (List.mem_cons_of_mem _ hlater)
    split
    · rename_i old hold
      cases h with
      | object _ inner => exact hover old (inner _ (mem_of_lookup hold))
    · exact hvalue

/-- Members that change nothing one by one change nothing together. -/
theorem overlayMembers_eq_self (h : below.Pairwise (·.1 < ·.1))
    (hsame : ∀ member ∈ above, ∃ old, below.lookup member.1 = some old ∧
      old.overlay member.2 = old) : overlayMembers below above = below := by
  induction above with
  | nil => rw [overlayMembers]
  | cons member rest ih =>
    obtain ⟨old, hold, hover⟩ := hsame member List.mem_cons_self
    have hrest := ih fun later hlater => hsame later (List.mem_cons_of_mem _ hlater)
    rw [overlayMembers, hold]
    dsimp only
    rw [hover, insert_of_lookup h hold, hrest]

theorem member?_of_not_object (h : base.isObject = false) : base.member? name = none := by
  cases base with
  | object => cases h
  | _ => rfl

/-- Under an object that lies on top, the members are laid over each other. -/
theorem member?_overlay (h : cover.Tidy) (hobject : cover.isObject) :
    (base.overlay cover).member? name =
      Option.merge overlay (base.member? name) (cover.member? name) := by
  by_cases hbase : base.isObject
  · cases h with
    | object ordered inner =>
      cases base with
      | object below =>
        unfold overlay
        exact lookup_overlayMembers ordered
      | _ => cases hbase
    | _ => cases hobject
  · have hfalse := Bool.eq_false_iff.mpr hbase
    rw [overlay_of_base_not_object hfalse, member?_of_not_object hfalse, Option.merge_none_left]

theorem isObject_of_member? (h : cover.member? name = some value) : cover.isObject := by
  cases cover with
  | object => rfl
  | _ => cases h

theorem Tidy.member? (h : cover.Tidy) (hmember : cover.member? name = some value) :
    value.Tidy := by
  cases h with
  | object ordered inner => exact inner _ (mem_of_lookup hmember)
  | _ => cases hmember

theorem Tidy.overlay (hbase : base.Tidy) (hcover : cover.Tidy) : (base.overlay cover).Tidy := by
  induction hcover generalizing base with
  | object ordered inner ih =>
    unfold Json.overlay
    split
    · rename_i heq
      cases heq
      exact tidy_overlayMembers hbase fun member hmember =>
        ⟨inner member hmember, fun _ hold => ih member hmember hold⟩
    · exact .object ordered inner
  | array inner =>
    rw [overlay_of_not_object rfl]
    exact .array inner
  | _ => rw [overlay_of_not_object rfl]; constructor

theorem isObject_overlay (h : cover.isObject) : (base.overlay cover).isObject := by
  unfold Json.overlay
  split
  · rfl
  · exact h

theorem overlay_eq_self (hbase : base.Tidy) (hcover : cover.Tidy) (hobject : base.isObject)
    (hsame : ∀ name value, cover.member? name = some value →
      ∃ old, base.member? name = some old ∧ old.overlay value = old)
    (hcoverObject : cover.isObject) : base.overlay cover = base := by
  cases hbase with
  | object ordered inner =>
    cases hcover with
    | object ordered' inner' =>
      unfold overlay
      refine congrArg Json.object (overlayMembers_eq_self ordered fun member hmember => ?_)
      exact hsame member.1 member.2 (lookup_of_mem ordered' hmember)
    | _ => cases hcoverObject
  | _ => cases hobject

/-- What lies on top already may be laid there once more. -/
theorem overlay_overlay (hbase : base.Tidy) (hcover : cover.Tidy) :
    (base.overlay cover).overlay cover = base.overlay cover := by
  induction hcover generalizing base with
  | object ordered inner ih =>
    have hcover := Tidy.object ordered inner
    refine overlay_eq_self (hbase.overlay hcover) hcover (isObject_overlay rfl)
      (fun name value hvalue => ?_) rfl
    rw [member?_overlay hcover rfl, hvalue]
    have hmem := mem_of_lookup hvalue
    cases hunder : base.member? name with
    | none =>
      -- A value where nothing was is that value over a base that is no object.
      have hnull : Json.null.overlay value = value := overlay_of_base_not_object rfl
      have hself := ih (name, value) hmem .null
      rw [hnull] at hself
      exact ⟨value, rfl, hself⟩
    | some old => exact ⟨_, rfl, ih (name, value) hmem (hbase.member? hunder)⟩
  | _ => rw [overlay_of_not_object rfl, overlay_of_not_object rfl]

/-! Paths. -/

theorem at?_cons (tree : Json) : tree.at? (name :: path) = (tree.member? name).bind (at? · path) :=
  rfl

/-- What is no object covers what lies below it. -/
theorem at?_overlay_of_not_object (hcover : cover.Tidy) (h : cover.at? path = some value)
    (hvalue : value.isObject = false) : (base.overlay cover).at? path = some value := by
  induction path generalizing base cover with
  | nil =>
    cases h
    rw [overlay_of_not_object hvalue]
    rfl
  | cons name path ih =>
    obtain ⟨inner, hinner, h⟩ := Option.bind_eq_some_iff.mp h
    rw [at?_cons, member?_overlay hcover (isObject_of_member? hinner), hinner]
    cases base.member? name with
    | none =>
      rw [Option.merge_none_left]
      exact h
    | some old => exact ih (hcover.member? hinner) h

/-- The base shows through where the cover ends in objects only. -/
theorem at?_overlay_of_none (hcover : cover.Tidy) (h : cover.at? path = none)
    (hobjects : ∀ before value, before <+: path → before ≠ path → cover.at? before = some value →
      value.isObject) : (base.overlay cover).at? path = base.at? path := by
  induction path generalizing base cover with
  | nil => cases h
  | cons name path ih =>
    have hobject : cover.isObject := hobjects [] cover List.nil_prefix (by simp) rfl
    rw [at?_cons, at?_cons, member?_overlay hcover hobject]
    cases hinner : cover.member? name with
    | none => rw [Option.merge_none_right]
    | some inner =>
      have hnone : inner.at? path = none := by simpa [at?_cons, hinner] using h
      cases base.member? name with
      | none =>
        rw [Option.merge_none_left]
        exact hnone
      | some old =>
        refine ih (hcover.member? hinner) hnone fun before value hbefore hne hvalue => ?_
        refine hobjects (name :: before) value (List.cons_prefix_cons.mpr ⟨rfl, hbefore⟩) ?_ ?_
        · exact fun heq => hne (List.cons.inj heq).2
        · rw [at?_cons, hinner]
          exact hvalue

/-- No path comes from nowhere. -/
theorem at?_of_overlay (hcover : cover.Tidy) (h : ((base.overlay cover).at? path).isSome) :
    (base.at? path).isSome ∨ (cover.at? path).isSome := by
  induction path generalizing base cover with
  | nil => exact Or.inl rfl
  | cons name path ih =>
    by_cases hobject : cover.isObject
    · rw [at?_cons, member?_overlay hcover hobject] at h
      rw [at?_cons, at?_cons]
      cases hinner : cover.member? name with
      | none =>
        rw [hinner, Option.merge_none_right] at h
        exact Or.inl h
      | some inner =>
        cases hunder : base.member? name with
        | none =>
          rw [hinner, hunder, Option.merge_none_left] at h
          exact Or.inr h
        | some old =>
          rw [hinner, hunder] at h
          exact ih (hcover.member? hinner) h
    · rw [overlay_of_not_object (Bool.eq_false_iff.mpr hobject)] at h
      exact Or.inr h

/-- One tree over another gives a tree again, which holds at each path what the cover holds there if
that is no object, and what the base holds if the cover says nothing on the path. It has no other
paths than the two, and the same cover once more changes nothing. -/
theorem overlay_pathwise (hbase : base.Tidy) (hcover : cover.Tidy) :
    (base.overlay cover).Tidy ∧
    (∀ path value, cover.at? path = some value → value.isObject = false →
      (base.overlay cover).at? path = some value) ∧
    (∀ path, cover.at? path = none →
      (∀ before value, before <+: path → before ≠ path → cover.at? before = some value →
        value.isObject) →
      (base.overlay cover).at? path = base.at? path) ∧
    (∀ path, ((base.overlay cover).at? path).isSome →
      (base.at? path).isSome ∨ (cover.at? path).isSome) ∧
    (base.overlay cover).overlay cover = base.overlay cover :=
  ⟨hbase.overlay hcover, fun _ _ => at?_overlay_of_not_object hcover,
    fun _ => at?_overlay_of_none hcover, fun _ => at?_of_overlay hcover,
    overlay_overlay hbase hcover⟩

/-- One section is completed, one gives way to a value, and a value to an empty section. -/
theorem overlay_pathwise_of_sections :
    let base : Json := .object
      [("bmc", .object [("password", .text "p"), ("username", .text "a")]), ("extra", .int 1),
        ("s3", .object [("acl", .text "private")])]
    let cover : Json := .object
      [("bmc", .object [("username", .text "b")]), ("extra", .object []), ("s3", .null)]
    base.Tidy ∧ cover.Tidy ∧
      (base.overlay cover).at? ["bmc", "username"] = some (.text "b") ∧
      (base.overlay cover).at? ["s3"] = some .null ∧
      (base.overlay cover).at? ["bmc", "password"] = some (.text "p") ∧
      (base.overlay cover).at? ["ipmi"] = none ∧
      (base.overlay cover).overlay cover = base.overlay cover := by
  intro base cover
  have hbase : base.Tidy := by
    refine .object (by decide) ?_
    rintro member (_ | ⟨_, _ | ⟨_, _ | ⟨_, ⟨⟩⟩⟩⟩)
    · exact .object (by decide) (by rintro member (_ | ⟨_, _ | ⟨_, ⟨⟩⟩⟩) <;> exact .text _)
    · exact .int 1
    · exact .object (by decide) (by rintro member (_ | ⟨_, ⟨⟩⟩); exact .text _)
  have hcover : cover.Tidy := by
    refine .object (by decide) ?_
    rintro member (_ | ⟨_, _ | ⟨_, _ | ⟨_, ⟨⟩⟩⟩⟩)
    · exact .object (by decide) (by rintro member (_ | ⟨_, ⟨⟩⟩); exact .text _)
    · exact .object .nil nofun
    · exact .null
  obtain ⟨-, hcovers, hshows, hpaths, hagain⟩ := overlay_pathwise hbase hcover
  have hpassword : ∀ before value, before <+: ["bmc", "password"] → before ≠ ["bmc", "password"] →
      cover.at? before = some value → value.isObject := by
    intro before value hbefore hne hvalue
    rcases before with _ | ⟨first, _ | ⟨second, before⟩⟩
    · cases hvalue
      rfl
    · obtain rfl := (List.cons_prefix_cons.mp hbefore).1
      cases hvalue
      rfl
    · exact absurd (hbefore.eq_of_length_le (by simp)) hne
  refine ⟨hbase, hcover, hcovers _ _ rfl rfl, hcovers _ _ rfl rfl, hshows _ rfl hpassword, ?_,
    hagain⟩
  rw [← Option.not_isSome_iff_eq_none]
  exact fun hsome => (hpaths _ hsome).elim nofun nofun

end Outband.Json
