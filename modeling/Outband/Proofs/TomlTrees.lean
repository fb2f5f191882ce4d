import Outband.Toml.Reader
import Outband.Proofs.Overlay
/-! The trees that TOML documents are read as. The values in a table are tidy on their own, and the
table is put in order when it becomes a tree. -/

namespace Outband.Toml

/-- Every value in it is tidy. -/
inductive Item.Tidy : Item → Prop where
  | value {value : Json} (h : value.Tidy) : Item.Tidy (.value value)
  | table {origin : Origin} {members : Members} (h : ∀ member ∈ members, Item.Tidy member.2) :
      Item.Tidy (.table origin members)
  | tables {elements : List Members}
      (h : ∀ members ∈ elements, ∀ member ∈ members, Item.Tidy member.2) :
      Item.Tidy (.tables elements)

def Members.Tidy (members : Members) : Prop := ∀ member ∈ members, member.2.Tidy

variable {item : Item} {members out : Members} {key : String} {path : List String} {value : Json}
  {pairs : List (List String × Json)}

theorem tidy_membersJson (h : ∀ member ∈ members, member.2.toJson.Tidy) :
    Json.Tidy (.object (membersJson members)) := by
  induction members with
  | nil =>
    rw [membersJson]
    exact .object .nil nofun
  | cons member rest ih =>
    obtain ⟨hmember, hrest⟩ := List.forall_mem_cons.mp h
    rw [membersJson]
    exact (ih hrest).insert hmember

theorem tidy_elementsJson {elements : List Members}
    (h : ∀ members ∈ elements, ∀ member ∈ members, member.2.toJson.Tidy) :
    ∀ element ∈ elementsJson elements, element.Tidy := by
  induction elements with
  | nil =>
    rw [elementsJson]
    nofun
  | cons members rest ih =>
    obtain ⟨hmembers, hrest⟩ := List.forall_mem_cons.mp h
    rw [elementsJson]
    exact List.forall_mem_cons.mpr ⟨tidy_membersJson hmembers, ih hrest⟩

theorem Item.Tidy.toJson (h : item.Tidy) : item.toJson.Tidy := by
  induction h with
  | value h =>
    rw [Item.toJson]
    exact h
  | table _ ih =>
    rw [Item.toJson]
    exact tidy_membersJson ih
  | tables _ ih =>
    rw [Item.toJson]
    exact .array (tidy_elementsJson ih)

theorem Members.Tidy.toJson (h : members.Tidy) : Json.Tidy (.object (membersJson members)) :=
  tidy_membersJson fun member hmember => (h member hmember).toJson

namespace Members

theorem Tidy.nil : Members.Tidy [] := nofun

theorem Tidy.set (h : members.Tidy) (hitem : item.Tidy) : (members.set key item).Tidy := by
  induction members with
  | nil => exact List.forall_mem_singleton.mpr hitem
  | cons member rest ih =>
    obtain ⟨hmember, hrest⟩ := List.forall_mem_cons.mp h
    rw [Members.set]
    split
    · exact List.forall_mem_cons.mpr ⟨hitem, hrest⟩
    · exact List.forall_mem_cons.mpr ⟨hmember, ih hrest⟩

theorem Tidy.lookup (h : members.Tidy) (hlookup : members.lookup key = some item) : item.Tidy := by
  obtain ⟨before, after, rfl, -⟩ := List.lookup_eq_some_iff.mp hlookup
  exact h _ List.mem_append_cons_self

/-- Whatever a path leads through, only the change at its end can put something in. -/
theorem Tidy.descend {way : Origin} {change : Origin → Members → Option Members}
    (hchange : ∀ origin inner out, Members.Tidy inner → change origin inner = some out →
      Members.Tidy out) {origin : Origin} (h : members.Tidy)
    (hout : members.descend way change path origin = some out) : out.Tidy := by
  induction path generalizing members origin out with
  | nil => exact hchange _ _ _ h hout
  | cons key rest ih =>
    simp only [Members.descend] at hout
    split at hout
    · obtain ⟨inner, hinner, hout⟩ := Option.bind_eq_some_iff.mp hout
      cases hout
      exact h.set (.table (ih Tidy.nil hinner))
    · rename_i inner hlookup
      split at hout
      · cases hout
      · obtain ⟨changed, hchanged, hout⟩ := Option.bind_eq_some_iff.mp hout
        cases hout
        cases h.lookup hlookup with
        | table hinner => exact h.set (.table (ih hinner hchanged))
    · rename_i elements hlookup
      obtain ⟨last, hlast, hout⟩ := Option.bind_eq_some_iff.mp hout
      cases hout
      cases h.lookup hlookup with
      | tables helements =>
        have hold : Members.Tidy (elements.getLast?.getD []) := by
          cases hgot : elements.getLast? with
          | none => exact Tidy.nil
          | some old => exact helements old (List.mem_of_getLast? hgot)
        refine h.set (.tables fun element helement => ?_)
        rcases List.mem_append.mp helement with hbefore | hnew
        · exact helements element ((List.dropLast_sublist elements).subset hbefore)
        · obtain rfl := List.mem_singleton.mp hnew
          exact ih hold hlast
    · cases hout

theorem Tidy.addValue (h : members.Tidy) (hvalue : value.Tidy)
    (hout : members.addValue path value = some out) : out.Tidy := by
  obtain ⟨key, -, hout⟩ := Option.bind_eq_some_iff.mp hout
  refine h.descend (fun origin inner changed hinner hchanged => ?_) hout
  split at hchanged
  · cases hchanged
    exact hinner.set (.value hvalue)
  · cases hchanged

theorem Tidy.addValues (h : members.Tidy) (hpairs : ∀ pair ∈ pairs, pair.2.Tidy)
    (hout : members.addValues pairs = some out) : out.Tidy := by
  induction pairs generalizing members with
  | nil =>
    cases hout
    exact h
  | cons pair rest ih =>
    obtain ⟨hpair, hrest⟩ := List.forall_mem_cons.mp hpairs
    obtain ⟨added, hadded, hout⟩ := Option.bind_eq_some_iff.mp hout
    exact ih (h.addValue hpair hadded) hrest hout

theorem Tidy.addTable (h : members.Tidy) (hpairs : ∀ pair ∈ pairs, pair.2.Tidy)
    (hout : members.addTable path pairs = some out) : out.Tidy := by
  obtain ⟨key, -, hout⟩ := Option.bind_eq_some_iff.mp hout
  refine h.descend (fun origin inner changed hinner hchanged => ?_) hout
  split at hchanged
  · obtain ⟨table, htable, hchanged⟩ := Option.bind_eq_some_iff.mp hchanged
    cases hchanged
    exact hinner.set (.table (Tidy.nil.addValues hpairs htable))
  · rename_i old hlookup
    obtain ⟨table, htable, hchanged⟩ := Option.bind_eq_some_iff.mp hchanged
    cases hchanged
    cases hinner.lookup hlookup with
    | table hold => exact hinner.set (.table (Tidy.addValues hold hpairs htable))
  · cases hchanged

theorem Tidy.addElement (h : members.Tidy) (hpairs : ∀ pair ∈ pairs, pair.2.Tidy)
    (hout : members.addElement path pairs = some out) : out.Tidy := by
  obtain ⟨key, -, hout⟩ := Option.bind_eq_some_iff.mp hout
  obtain ⟨element, helement, hout⟩ := Option.bind_eq_some_iff.mp hout
  have hnew := Tidy.nil.addValues hpairs helement
  refine h.descend (fun origin inner changed hinner hchanged => ?_) hout
  split at hchanged
  · cases hchanged
    exact hinner.set (.tables (List.forall_mem_singleton.mpr hnew))
  · rename_i elements hlookup
    cases hchanged
    cases hinner.lookup hlookup with
    | tables hold =>
      exact hinner.set (.tables (List.forall_mem_append.mpr
        ⟨hold, List.forall_mem_singleton.mpr hnew⟩))
  · cases hchanged

end Members

/-! What the lines of a document say. -/

theorem tidy_integer? {chars : List Char} (h : integer? chars = some value) : value.Tidy := by
  unfold integer? at h
  extract_lets bound finish at h
  have hfinish : ∀ read : Option Int, read.bind finish = some value → value.Tidy := by
    intro read hread
    obtain ⟨n, -, hread⟩ := Option.bind_eq_some_iff.mp hread
    dsimp only [finish] at hread
    split at hread
    · cases hread
      exact .int n
    · cases hread
  split at h
  case h_4 =>
    split at h
    split at h <;> exact hfinish _ h
  all_goals exact hfinish _ h

theorem tidy_float? {chars : List Char} (h : float? chars = some value) : value.Tidy := by
  unfold float? at h
  split at h
  split at h
  · cases h
    exact .null
  · obtain ⟨body, -, h⟩ := Option.bind_eq_some_iff.mp h
    obtain ⟨s, -, h⟩ := Option.bind_eq_some_iff.mp h
    split at h
    · cases h
    · obtain ⟨x, -, h⟩ := Option.bind_eq_some_iff.mp h
      cases h
      exact .double _ x

theorem tidy_plain? {chars : List Char} (h : plain? chars = some value) : value.Tidy := by
  unfold plain? at h
  split at h
  · cases h
    exact .bool true
  · split at h
    · cases h
      exact .bool false
    · cases hinteger : integer? chars with
      | none =>
        rw [hinteger] at h
        exact tidy_float? h
      | some n =>
        rw [hinteger] at h
        cases h
        exact tidy_integer? hinteger

/-- What is read with this much fuel is tidy: a value, the items of an array, the pairs of an inline
table, one pair. -/
structure ReadsTidily (fuel : Nat) : Prop where
  value : ∀ {lexemes value rest}, value? fuel lexemes = some (value, rest) → value.Tidy
  items : ∀ {lexemes items rest}, items? fuel lexemes = some (items, rest) →
    ∀ item ∈ items, item.Tidy
  pairs : ∀ {lexemes pairs rest}, pairs? fuel lexemes = some (pairs, rest) →
    ∀ pair ∈ pairs, pair.2.Tidy
  pair : ∀ {lexemes pair rest}, pair? fuel lexemes = some (pair, rest) → pair.2.Tidy

section Reading

variable {fuel : Nat} (ih : ∀ less, less < fuel → ReadsTidily less) {lexemes rest : List Lexeme}

include ih

theorem tidy_value? (h : value? fuel lexemes = some (value, rest)) : value.Tidy := by
  unfold value? at h
  split at h
  · cases h
    exact .text _
  · obtain ⟨x, hx, h⟩ := Option.map_eq_some_iff.mp h
    cases h
    exact tidy_float? hx
  · obtain ⟨x, hx, h⟩ := Option.map_eq_some_iff.mp h
    cases h
    exact tidy_plain? hx
  · obtain ⟨⟨items, rest⟩, hitems, h⟩ := Option.bind_eq_some_iff.mp h
    cases h
    exact .array ((ih _ (Nat.lt_succ_self _)).items hitems)
  · cases h
    exact .object .nil nofun
  · obtain ⟨⟨pairs, rest⟩, hpairs, h⟩ := Option.bind_eq_some_iff.mp h
    obtain ⟨members, hmembers, h⟩ := Option.bind_eq_some_iff.mp h
    cases h
    have hinner := (ih _ (Nat.lt_succ_self _)).pairs hpairs
    exact (Members.Tidy.nil.addValues hinner hmembers).toJson
  · cases h

theorem tidy_items? {items : List Json} (h : items? fuel lexemes = some (items, rest)) :
    ∀ item ∈ items, item.Tidy := by
  unfold items? at h
  split at h
  · cases h
    nofun
  · obtain ⟨⟨item, rest⟩, hitem, h⟩ := Option.bind_eq_some_iff.mp h
    have hfirst := (ih _ (Nat.lt_succ_self _)).value hitem
    dsimp only at h
    split at h
    · obtain ⟨⟨more, rest⟩, hmore, h⟩ := Option.bind_eq_some_iff.mp h
      cases h
      exact List.forall_mem_cons.mpr ⟨hfirst, (ih _ (Nat.lt_succ_self _)).items hmore⟩
    · cases h
      exact List.forall_mem_singleton.mpr hfirst
    · cases h
  · cases h

theorem tidy_pairs? (h : pairs? fuel lexemes = some (pairs, rest)) :
    ∀ pair ∈ pairs, pair.2.Tidy := by
  unfold pairs? at h
  split at h
  · obtain ⟨⟨pair, rest⟩, hpair, h⟩ := Option.bind_eq_some_iff.mp h
    have hfirst := (ih _ (Nat.lt_succ_self _)).pair hpair
    dsimp only at h
    split at h
    · obtain ⟨⟨more, rest⟩, hmore, h⟩ := Option.bind_eq_some_iff.mp h
      cases h
      exact List.forall_mem_cons.mpr ⟨hfirst, (ih _ (Nat.lt_succ_self _)).pairs hmore⟩
    · cases h
      exact List.forall_mem_singleton.mpr hfirst
    · cases h
  · cases h

theorem tidy_pair? {pair : List String × Json} (h : pair? fuel lexemes = some (pair, rest)) :
    pair.2.Tidy := by
  unfold pair? at h
  split at h
  · obtain ⟨⟨key, rest⟩, -, h⟩ := Option.bind_eq_some_iff.mp h
    dsimp only at h
    split at h
    · obtain ⟨⟨value, rest⟩, hvalue, h⟩ := Option.bind_eq_some_iff.mp h
      cases h
      exact (ih _ (Nat.lt_succ_self _)).value hvalue
    · cases h
  · cases h

end Reading

theorem readsTidily (fuel : Nat) : ReadsTidily fuel := by
  induction fuel using Nat.strongRecOn with
  | ind fuel ih => exact ⟨tidy_value? ih, tidy_items? ih, tidy_pairs? ih, tidy_pair? ih⟩

def Line.Tidy : Line → Prop
  | .pair _ value => value.Tidy
  | .table _ | .element _ => True

theorem tidy_line? {fuel : Nat} {lexemes rest : List Lexeme} {line : Line}
    (h : line? fuel lexemes = some (line, rest)) : line.Tidy := by
  unfold line? at h
  split at h
  · obtain ⟨⟨path, rest⟩, -, h⟩ := Option.bind_eq_some_iff.mp h
    split at h
    · cases h
      trivial
    · cases h
  · obtain ⟨⟨path, rest⟩, -, h⟩ := Option.bind_eq_some_iff.mp h
    split at h
    · cases h
      trivial
    · cases h
  · obtain ⟨pair, hpair, h⟩ := Option.map_eq_some_iff.mp h
    cases h
    exact (readsTidily fuel).pair hpair

theorem tidy_lines? {fuel : Nat} {lexemes : List Lexeme} {lines : List Line}
    (h : lines? fuel lexemes = some lines) : ∀ line ∈ lines, line.Tidy := by
  induction fuel using Nat.strongRecOn generalizing lexemes lines with
  | ind fuel ih =>
    unfold lines? at h
    split at h
    · cases h
      nofun
    · exact ih _ (Nat.lt_succ_self _) h
    · obtain ⟨⟨line, rest⟩, hline, h⟩ := Option.bind_eq_some_iff.mp h
      dsimp only at h
      split at h
      · cases h
        exact List.forall_mem_singleton.mpr (tidy_line? hline)
      · obtain ⟨more, hmore, h⟩ := Option.bind_eq_some_iff.mp h
        cases h
        exact List.forall_mem_cons.mpr ⟨tidy_line? hline, ih _ (Nat.lt_succ_self _) hmore⟩
      · cases h
    · cases h

/-- A section whose values are tidy leaves the document tidy. -/
def Section.Tidy (s : Section) : Prop :=
  ∀ members out : Members, members.Tidy → s.add s.pairs members = some out → out.Tidy

theorem tidy_sections {lines : List Line} (h : ∀ line ∈ lines, line.Tidy) :
    (∀ pair ∈ (sections lines).1, pair.2.Tidy) ∧ ∀ s ∈ (sections lines).2, s.Tidy := by
  induction lines with
  | nil => exact ⟨nofun, nofun⟩
  | cons line rest ih =>
    obtain ⟨hline, hrest⟩ := List.forall_mem_cons.mp h
    obtain ⟨hpairs, hsections⟩ := ih hrest
    cases line with
    | pair key value => exact ⟨List.forall_mem_cons.mpr ⟨hline, hpairs⟩, hsections⟩
    | table path =>
      exact ⟨nofun, List.forall_mem_cons.mpr
        ⟨fun _ _ hmembers hout => hmembers.addTable hpairs hout, hsections⟩⟩
    | element path =>
      exact ⟨nofun, List.forall_mem_cons.mpr
        ⟨fun _ _ hmembers hout => hmembers.addElement hpairs hout, hsections⟩⟩

theorem Members.Tidy.addSections {sections : List Section} (h : members.Tidy)
    (hsections : ∀ s ∈ sections, s.Tidy)
    (hout : sections.foldlM (fun root (s : Section) => s.add s.pairs root) members = some out) :
    out.Tidy := by
  induction sections generalizing members with
  | nil =>
    cases hout
    exact h
  | cons s rest ih =>
    obtain ⟨hs, hrest⟩ := List.forall_mem_cons.mp hsections
    obtain ⟨added, hadded, hout⟩ := Option.bind_eq_some_iff.mp hout
    exact ih (hs _ _ h hadded) hrest hout

theorem tidy_of_parse? {content : String} (h : parse? content = some value) : value.Tidy := by
  unfold parse? at h
  obtain ⟨lines, hlines, h⟩ := Option.bind_eq_some_iff.mp h
  obtain ⟨hpairs, hsections⟩ := tidy_sections (tidy_lines? hlines)
  obtain ⟨root, hroot, h⟩ := Option.bind_eq_some_iff.mp h
  obtain ⟨whole, hwhole, h⟩ := Option.bind_eq_some_iff.mp h
  cases h
  exact ((Members.Tidy.nil.addValues hpairs hroot).addSections hsections hwhole).toJson

end Outband.Toml
