import Outband.Yaml.Reader
import Outband.Proofs.Overlay
/-! The trees that YAML documents are read as. Members are entered into a mapping one by one, in a
block as in a flow, and what is read is tidy whatever fuel it was read with. -/

namespace Outband.Yaml

variable {value : Json} {fuel : Nat}

theorem tidy_float? {chars : List Char} (h : float? chars = some value) : value.Tidy := by
  unfold float? at h
  split at h
  obtain ⟨s, -, h⟩ := Option.bind_eq_some_iff.mp h
  split at h
  · cases h
  · obtain ⟨x, -, h⟩ := Option.bind_eq_some_iff.mp h
    cases h
    exact .double _ x

theorem tidy_resolve? {text : String} (h : resolve? text = some value) : value.Tidy := by
  unfold resolve? at h
  extract_lets chars other at h
  have hother : other.Tidy := by
    dsimp only [other]
    split
    · exact .null
    · split
      · exact .text _
      · cases hfloat : float? chars with
        | none => exact .text _
        | some x => exact tidy_float? hfloat
  split at h
  · cases h
    exact .null
  · split at h
    · cases h
      exact .bool true
    · split at h
      · cases h
        exact .bool false
      · split at h
        · split at h
          · cases h
            exact .int _
          · split at h
            · cases h
            · exact Option.some.inj h ▸ hother
        · exact Option.some.inj h ▸ hother

/-- What is read of a flow with this much fuel is tidy: a value, one behind a colon, the items of a
sequence, and a mapping if it was tidy as far as it had been read. -/
structure FlowsTidily (fuel : Nat) : Prop where
  flow : ∀ {chars value rest}, flow? fuel chars = some (value, rest) → value.Tidy
  value : ∀ {chars value rest}, flowValue? fuel chars = some (value, rest) → value.Tidy
  items : ∀ {chars items rest}, flowItems? fuel chars = some (items, rest) →
    ∀ item ∈ items, item.Tidy
  members : ∀ {chars members out rest}, Json.Tidy (.object members) →
    flowMembers? fuel members chars = some (out, rest) → Json.Tidy (.object out)

section Flows

variable (ih : ∀ less, less < fuel → FlowsTidily less) {chars rest : List Char}

include ih

theorem tidy_flow? (h : flow? fuel chars = some (value, rest)) : value.Tidy := by
  unfold flow? at h
  split at h
  · obtain ⟨⟨items, rest⟩, hitems, h⟩ := Option.bind_eq_some_iff.mp h
    cases h
    exact .array ((ih _ (Nat.lt_succ_self _)).items hitems)
  · obtain ⟨⟨members, rest⟩, hmembers, h⟩ := Option.bind_eq_some_iff.mp h
    cases h
    exact (ih _ (Nat.lt_succ_self _)).members (.object .nil nofun) hmembers
  · obtain ⟨q, -, h⟩ := Option.bind_eq_some_iff.mp h
    cases h
    exact .text _
  · obtain ⟨q, -, h⟩ := Option.bind_eq_some_iff.mp h
    cases h
    exact .text _
  · split at h
    · extract_lets part at h
      split at h
      obtain ⟨x, hx, h⟩ := Option.bind_eq_some_iff.mp h
      cases h
      exact tidy_resolve? hx
    · cases h

theorem tidy_flowValue? (h : flowValue? fuel chars = some (value, rest)) : value.Tidy := by
  unfold flowValue? at h
  split at h
  · split at h
    · cases h
      exact .null
    · cases h
      exact .null
    · cases h
      exact .null
    · exact (ih _ (Nat.lt_succ_self _)).flow h
  · cases h

theorem tidy_flowItems? {items : List Json} (h : flowItems? fuel chars = some (items, rest)) :
    ∀ item ∈ items, item.Tidy := by
  unfold flowItems? at h
  split at h
  · cases h
    nofun
  · obtain ⟨⟨item, after⟩, hitem, h⟩ := Option.bind_eq_some_iff.mp h
    dsimp -zeta only at h
    extract_lets finish at h
    have hfinish : ∀ first : Json × List Char, first.1.Tidy →
        finish first = some (items, rest) → ∀ item ∈ items, item.Tidy := by
      rintro ⟨first, after⟩ hfirst h
      dsimp only [finish] at h
      split at h
      · obtain ⟨⟨more, after⟩, hmore, h⟩ := Option.bind_eq_some_iff.mp h
        cases h
        exact List.forall_mem_cons.mpr ⟨hfirst, (ih _ (Nat.lt_succ_self _)).items hmore⟩
      · cases h
        exact List.forall_mem_singleton.mpr hfirst
      · cases h
    split at h
    · obtain ⟨⟨key, _⟩, -, h⟩ := Option.bind_eq_some_iff.mp h
      obtain ⟨⟨value, after⟩, hvalue, h⟩ := Option.bind_eq_some_iff.mp h
      have hinner := (ih _ (Nat.lt_succ_self _)).value hvalue
      exact hfinish _
        (.object (List.pairwise_singleton _ _) (List.forall_mem_singleton.mpr hinner)) h
    · exact hfinish _ ((ih _ (Nat.lt_succ_self _)).flow hitem) h
  · cases h

theorem tidy_flowMembers? {members out : List (String × Json)}
    (hmembers : Json.Tidy (.object members))
    (h : flowMembers? fuel members chars = some (out, rest)) : Json.Tidy (.object out) := by
  unfold flowMembers? at h
  split at h
  · cases h
    exact hmembers
  · obtain ⟨⟨key, after⟩, -, h⟩ := Option.bind_eq_some_iff.mp h
    dsimp -zeta only at h
    extract_lets finish at h
    have hfinish : ∀ first : Json × List Char, first.1.Tidy →
        finish first = some (out, rest) → Json.Tidy (.object out) := by
      rintro ⟨first, after⟩ hfirst h
      dsimp only [finish] at h
      split at h
      · exact (ih _ (Nat.lt_succ_self _)).members (hmembers.insert hfirst) h
      · cases h
        exact hmembers.insert hfirst
      · cases h
    split at h
    · obtain ⟨⟨value, after⟩, hvalue, h⟩ := Option.bind_eq_some_iff.mp h
      exact hfinish _ ((ih _ (Nat.lt_succ_self _)).value hvalue) h
    · exact hfinish _ .null h
  · cases h

end Flows

theorem flowsTidily (fuel : Nat) : FlowsTidily fuel := by
  induction fuel using Nat.strongRecOn with
  | ind fuel ih =>
    exact ⟨tidy_flow? ih, tidy_flowValue? ih, tidy_flowItems? ih, tidy_flowMembers? ih⟩

/-- The value of the piece, if it has one, is tidy. -/
def Piece.Tidy : Piece → Prop
  | .short _ value | .long value => ∀ x, value = some x → x.Tidy

theorem tidy_quotedPiece (q : Quoted) : (quotedPiece q).Tidy := by
  unfold quotedPiece
  dsimp only
  split
  · rintro _ ⟨⟩
    exact .text _
  · rintro _ ⟨⟩
    exact .text _

theorem tidy_piece? {c after : Cursor} {piece : Piece} (h : piece? c = some (piece, after)) :
    piece.Tidy := by
  have hflow : ∀ chars : List Char,
      ((flow? (2 * c.rest.length) chars).map fun read =>
        (Piece.long (some read.1), passed c (c.rest.length - read.2.length))) =
          some (piece, after) → piece.Tidy := by
    intro chars h
    obtain ⟨⟨value, rest⟩, hvalue, h⟩ := Option.map_eq_some_iff.mp h
    cases h
    rintro _ ⟨⟩
    exact (flowsTidily _).flow hvalue
  unfold piece? at h
  split at h
  · obtain ⟨q, -, h⟩ := Option.map_eq_some_iff.mp h
    cases h
    exact tidy_quotedPiece q
  · obtain ⟨q, -, h⟩ := Option.map_eq_some_iff.mp h
    cases h
    exact tidy_quotedPiece q
  · exact hflow _ h
  · exact hflow _ h
  · split at h
    · cases h
      exact fun x hx => tidy_resolve? hx
    · cases h

/-- What is read of a block with this much fuel is tidy: a node, what stands behind a key or an
entry, a mapping if it was tidy as far as it had been read, and the entries of a sequence. -/
structure BlocksTidily (fuel : Nat) : Prop where
  node : ∀ {indent fresh c value after}, node? fuel indent fresh c = some (value, after) →
    value.Tidy
  inner : ∀ {column entry tabs c value after},
    inner? fuel column entry tabs c = some (value, after) → value.Tidy
  members : ∀ {column members key c out after}, Json.Tidy (.object members) →
    members? fuel column members key c = some (out, after) → Json.Tidy (.object out)
  entries : ∀ {column c items after}, entries? fuel column c = some (items, after) →
    ∀ item ∈ items, item.Tidy

section Blocks

variable (ih : ∀ less, less < fuel → BlocksTidily less) {indent : Int} {column : Nat}
  {fresh entry tabs : Bool} {c after : Cursor}

include ih

theorem tidy_node? (h : node? fuel indent fresh c = some (value, after)) : value.Tidy := by
  unfold node? at h
  split at h
  · cases h
  · split at h
    · split at h
      · obtain ⟨⟨items, after⟩, hitems, h⟩ := Option.bind_eq_some_iff.mp h
        cases h
        exact .array ((ih _ (Nat.lt_succ_self _)).entries hitems)
      · cases h
    · obtain ⟨⟨piece, behind⟩, hpiece, h⟩ := Option.bind_eq_some_iff.mp h
      have hscalar := tidy_piece? hpiece
      have hown : ∀ (read : Option Json) (next : Cursor), (∀ x, read = some x → x.Tidy) →
          (read.bind fun x => some (x, next)) = some (value, after) → value.Tidy := by
        intro read next hread h
        obtain ⟨x, hx, h⟩ := Option.bind_eq_some_iff.mp h
        cases h
        exact hread _ hx
      dsimp only at h
      split at h
      · split at h
        · obtain ⟨⟨members, behind⟩, hmembers, h⟩ := Option.bind_eq_some_iff.mp h
          cases h
          exact (ih _ (Nat.lt_succ_self _)).members (.object .nil nofun) hmembers
        · cases h
      · cases h
      · exact hown _ _ hscalar h
      · split at h
        · split at h
          · exact hown _ _ hscalar h
          · exact hown _ _ (fun x hx => tidy_resolve? hx) h
        · exact hown _ _ hscalar h

theorem tidy_inner? (h : inner? fuel column entry tabs c = some (value, after)) : value.Tidy := by
  unfold inner? at h
  split at h
  · cases h
  · extract_lets g at h
    split at h
    · cases h
      exact .null
    · split at h
      · exact (ih _ (Nat.lt_succ_self _)).node h
      · split at h
        · exact (ih _ (Nat.lt_succ_self _)).node h
        · split at h
          · obtain ⟨⟨items, after⟩, hitems, h⟩ := Option.bind_eq_some_iff.mp h
            cases h
            exact .array ((ih _ (Nat.lt_succ_self _)).entries hitems)
          · cases h
            exact .null

theorem tidy_members? {members out : List (String × Json)} {key : String}
    (hmembers : Json.Tidy (.object members))
    (h : members? fuel column members key c = some (out, after)) : Json.Tidy (.object out) := by
  unfold members? at h
  split at h
  · cases h
  · obtain ⟨⟨value, behind⟩, hvalue, h⟩ := Option.bind_eq_some_iff.mp h
    have hadded : Json.Tidy (.object (Json.insert key value members)) :=
      hmembers.insert ((ih _ (Nat.lt_succ_self _)).inner hvalue)
    dsimp only at h
    split at h
    · cases h
      exact hadded
    · split at h
      · cases h
      · split at h
        · cases h
          exact hadded
        · obtain ⟨⟨piece, behind⟩, -, h⟩ := Option.bind_eq_some_iff.mp h
          split at h
          · split at h
            · exact (ih _ (Nat.lt_succ_self _)).members hadded h
            · cases h
          · cases h

theorem tidy_entries? {items : List Json} (h : entries? fuel column c = some (items, after)) :
    ∀ item ∈ items, item.Tidy := by
  unfold entries? at h
  split at h
  · cases h
  · obtain ⟨⟨item, behind⟩, hitem, h⟩ := Option.bind_eq_some_iff.mp h
    have hfirst := (ih _ (Nat.lt_succ_self _)).inner hitem
    dsimp only at h
    split at h
    · cases h
      exact List.forall_mem_singleton.mpr hfirst
    · split at h
      · cases h
      · split at h
        · cases h
          exact List.forall_mem_singleton.mpr hfirst
        · obtain ⟨⟨more, behind⟩, hmore, h⟩ := Option.bind_eq_some_iff.mp h
          cases h
          exact List.forall_mem_cons.mpr ⟨hfirst, (ih _ (Nat.lt_succ_self _)).entries hmore⟩

end Blocks

theorem blocksTidily (fuel : Nat) : BlocksTidily fuel := by
  induction fuel using Nat.strongRecOn with
  | ind fuel ih => exact ⟨tidy_node? ih, tidy_inner? ih, tidy_members? ih, tidy_entries? ih⟩

theorem tidy_of_parse? {content : String} (h : parse? content = some value) : value.Tidy := by
  unfold parse? at h
  extract_lets chars start c marked first fresh finish read at h
  have hfinish : ∀ node : Json × Cursor, node.1.Tidy → finish node = some value → value.Tidy := by
    rintro ⟨node, after⟩ hnode h
    dsimp only [finish] at h
    split at h
    · cases h
      exact hnode
    · split at h
      · cases h
        exact hnode
      · cases h
  split at h
  · cases h
  · have hwhole : (if isEnd first.next then finish (.null, first.next) else
      (node? (8 * chars.length) (-1) fresh first.next).bind finish) = some value := h
    split at hwhole
    · exact hfinish (.null, first.next) .null hwhole
    · obtain ⟨node, hnode, hlast⟩ := Option.bind_eq_some_iff.mp hwhole
      exact hfinish node ((blocksTidily _).node hnode) hlast

end Outband.Yaml
