import Outband.Gallery
import Outband.Http.Route
import Mathlib.Data.List.TakeWhile
/-! Where the references to screenshots lead. The reference to a stored screenshot is the path under
which the service shows it just when the prefix of the gallery is empty or has one slash at its
start, where slashes alone count as empty. -/

namespace Outband

namespace Gallery

/-- The path under which the service shows a file of the directory. -/
def servedPath (g : Gallery) (name : String) : String :=
  if g.mountPath = "/" then "/" ++ name else g.mountPath ++ "/" ++ name

/-- The prefix has one slash at its start, or nothing but slashes. -/
def IsRooted (g : Gallery) : Prop :=
  (∀ c ∈ g.urlPrefix.toList, c = '/') ∨
    ∃ c rest, g.urlPrefix.toList = '/' :: c :: rest ∧ c ≠ '/'

/-- The slashes at the end go, those before another character stay. -/
theorem trimEnd_append (before : List Char) {c : Char} (hc : c ≠ '/') (rest : List Char) :
    ((before ++ c :: rest).reverse.dropWhile (· == '/')).reverse =
      before ++ c :: (rest.reverse.dropWhile (· == '/')).reverse := by
  have hslash : (c == '/') = false := by simpa using hc
  have hreverse : (before ++ c :: rest).reverse = rest.reverse ++ c :: before.reverse := by simp
  rw [hreverse, List.dropWhile_append]
  split
  · rename_i hempty
    rw [List.isEmpty_iff] at hempty
    rw [hempty, List.dropWhile_cons, hslash]
    simp
  · simp

/-- What the prefix comes to, as references have it and as the service does. -/
theorem prefix_cases (g : Gallery) :
    (g.IsRooted ∧ g.referencePrefix = "" ∧ g.mountPath = "/") ∨
      ∃ (slashes : Nat) (c : Char) (inner : List Char), c ≠ '/' ∧ g.mountPath ≠ "/" ∧
        (g.IsRooted ↔ slashes = 1) ∧
        g.referencePrefix = String.ofList (List.replicate slashes '/' ++ c :: inner) ∧
        g.mountPath = String.ofList ('/' :: c :: inner) := by
  by_cases hall : ∀ c ∈ g.urlPrefix.toList, c = '/'
  · refine Or.inl ⟨Or.inl hall, ?_, ?_⟩
    · have hnone : g.urlPrefix.toList.reverse.dropWhile (· == '/') = [] := by simpa using hall
      rw [referencePrefix, hnone]
      rfl
    · have hnone : g.urlPrefix.toList.dropWhile (· == '/') = [] := by simpa using hall
      rw [mountPath, hnone]
      rfl
  · have hsplit := g.urlPrefix.toList.takeWhile_append_dropWhile (p := (· == '/'))
    have hslashes : g.urlPrefix.toList.takeWhile (· == '/') =
        List.replicate (g.urlPrefix.toList.takeWhile (· == '/')).length '/' :=
      List.eq_replicate_of_mem fun c hc => by simpa using List.mem_takeWhile_imp hc
    generalize (g.urlPrefix.toList.takeWhile (· == '/')).length = slashes at hslashes
    cases hrest : g.urlPrefix.toList.dropWhile (· == '/') with
    | nil => exact absurd (by simpa using hrest) hall
    | cons c rest =>
      have hc : c ≠ '/' := by
        have hhead := List.head?_dropWhile_not (· == '/') g.urlPrefix.toList
        rw [hrest] at hhead
        simpa using hhead
      rw [hrest, hslashes] at hsplit
      have hmount : g.mountPath =
          String.ofList ('/' :: c :: (rest.reverse.dropWhile (· == '/')).reverse) := by
        have hinner := trimEnd_append [] hc rest
        rw [List.nil_append, List.nil_append] at hinner
        simp only [mountPath, hrest, hinner]
      refine Or.inr ⟨slashes, c, (rest.reverse.dropWhile (· == '/')).reverse, hc, ?_, ?_, ?_,
        hmount⟩
      · intro hroot
        rw [hmount] at hroot
        have hlist := congrArg String.toList hroot
        simp at hlist
      · rw [IsRooted, or_iff_right hall, ← hsplit]
        constructor
        · rintro ⟨d, more, hmore, hd⟩
          rcases slashes with _ | _ | slashes
          · rw [List.replicate_zero, List.nil_append] at hmore
            exact absurd (List.cons.inj hmore).1 hc
          · rfl
          · rw [List.replicate_succ, List.replicate_succ] at hmore
            exact absurd (List.cons.inj (List.cons.inj hmore).2).1.symm hd
        · rintro rfl
          exact ⟨c, rest, rfl, hc⟩
      · rw [referencePrefix, ← hsplit, trimEnd_append _ hc]

/-- Only where the prefix is rooted does a reference say where the file is served. -/
theorem reference_eq_servedPath_iff (g : Gallery) (name : String) :
    g.reference name = g.servedPath name ↔ g.IsRooted := by
  rw [reference, servedPath]
  rcases g.prefix_cases with ⟨hrooted, hreference, hmount⟩ |
    ⟨slashes, c, inner, hc, hinner, hrooted, hreference, hmount⟩
  · rw [if_pos hmount, hreference]
    exact iff_of_true rfl hrooted
  · rw [if_neg hinner, hreference, hmount, hrooted]
    constructor
    · intro hsame
      have hlist := congrArg (List.length ∘ String.toList) hsame
      simp only [Function.comp_apply, String.toList_append, String.toList_ofList,
        List.length_append, List.length_replicate, List.length_cons] at hlist
      omega
    · rintro rfl
      rfl

end Gallery

namespace Http.Route

/-- Files are under none of the fixed routes. -/
theorem fixed?_ne_file (path file : String) : fixed? path ≠ some (.file file) := by
  intro h
  unfold fixed? at h
  dsimp only at h
  split at h
  · cases h
  · split at h <;> cases h
  · split at h <;> cases h
  · split at h
    · cases h
    · split at h <;> cases h
  · split at h
    · cases h
    · split at h <;> cases h
  · cases h

theorem getD_fixed?_eq_file_iff {path file : String} {otherwise : Route} :
    (fixed? path).getD otherwise = .file file ↔
      fixed? path = none ∧ otherwise = .file file := by
  have hfixed := fixed?_ne_file path file
  cases hroute : fixed? path with
  | none => simp
  | some route =>
    rw [hroute] at hfixed
    have hne : route ≠ .file file := fun h => hfixed (congrArg some h)
    simp [hne]

/-- Below a mount point are the paths that go on after it with a slash. -/
theorem below?_append (mount rest : String) :
    below? mount (mount ++ "/" ++ rest) = some ("/" ++ rest) := by
  have hlist : (mount ++ "/" ++ rest).toList = mount.toList ++ '/' :: rest.toList := by simp
  have hrest : ("/" ++ rest).toList = '/' :: rest.toList := by simp
  have hprefix : mount.toList.isPrefixOf (mount.toList ++ '/' :: rest.toList) := by simp
  rw [below?, hlist, if_pos hprefix, List.drop_left]
  exact congrArg some (String.toList_injective (by simp))

/-- A path that parts from the mount point within its first two characters is not below it. -/
theorem below?_eq_none {mount path : List Char} (h : ¬ mount.take 2 <+: path) :
    below? (String.ofList mount) (String.ofList path) = none := by
  have hprefix : mount.isPrefixOf path = false := by
    rw [Bool.eq_false_iff]
    intro hmount
    exact h ((List.take_prefix 2 mount).trans (List.isPrefixOf_iff_prefix.mp hmount))
  rw [below?]
  simp only [String.toList_ofList, hprefix, Bool.false_eq_true, if_false]

end Http.Route

namespace Gallery

open Http (Route)

/-- The path that a reference says leads into the directory, to what has that name, only where the
prefix is rooted. In the root the fixed routes come first. -/
theorem ofPath_reference_iff (g : Gallery) (name : String) :
    Route.ofPath g.mountPath (g.reference name) = .file ("/" ++ name) ↔
      g.IsRooted ∧ (g.mountPath = "/" → Route.fixed? (g.reference name) = none) := by
  rcases g.prefix_cases with ⟨hrooted, hreference, hmount⟩ |
    ⟨slashes, c, inner, hc, hinner, hrooted, hreference, hmount⟩
  · have hname : g.reference name = "/" ++ name := by
      rw [reference, hreference]
      rfl
    rw [Route.ofPath, if_pos hmount, hname, Route.getD_fixed?_eq_file_iff]
    simp [hrooted, hmount]
  · rw [Route.ofPath, if_neg hinner, hrooted]
    simp only [hinner, false_imp_iff, and_true]
    by_cases hone : slashes = 1
    · obtain rfl := hone
      have hsame : g.referencePrefix = g.mountPath := by
        rw [hreference, hmount]
        rfl
      rw [reference, hsame, Route.below?_append]
      simp
    · have hparts : ¬ ('/' :: c :: inner).take 2 <+:
          List.replicate slashes '/' ++ c :: inner ++ '/' :: name.toList := by
        rintro ⟨more, hmore⟩
        rcases slashes with _ | _ | slashes
        · exact hc (List.cons.inj hmore).1.symm
        · exact hone rfl
        · exact hc (List.cons.inj (List.cons.inj hmore).2).1
      have hpath : g.reference name =
          String.ofList (List.replicate slashes '/' ++ c :: inner ++ '/' :: name.toList) := by
        rw [reference, hreference]
        exact String.toList_injective (by simp)
      have hbelow := Route.below?_eq_none hparts
      rw [← hmount, ← hpath] at hbelow
      rw [hbelow]
      dsimp only
      rw [Route.getD_fixed?_eq_file_iff]
      simp [hone]

/-- A screenshot that is stored is referred to by the path under which the service shows it just
when the prefix is rooted. Where the router takes the mount point, and the reference can be the path
of a request as it is, such a request is handed on to the directory, for what has that name, just
when the prefix is rooted and no fixed route comes first. -/
theorem persist_served_iff (g : Gallery) (name : String) (payload : Bytes) (files : Files) :
    ((g.persist name payload files).1 = .ok (g.servedPath name) ↔
      (g.persist name payload files).1.isOk ∧ g.IsRooted) ∧
    (Route.isMountable g.mountPath → Route.isPlain (g.reference name) →
      (Route.ofPath g.mountPath (g.reference name) = .file ("/" ++ name) ↔
        g.IsRooted ∧ (g.mountPath = "/" → Route.fixed? (g.reference name) = none))) := by
  refine ⟨?_, fun _ _ => g.ofPath_reference_iff name⟩
  have houtcome : (∃ e, (g.persist name payload files).1 = .error e) ∨
      (g.persist name payload files).1 = .ok (g.reference name) := by
    unfold persist
    split
    · exact Or.inl ⟨_, rfl⟩
    · split
      · exact Or.inl ⟨_, rfl⟩
      · exact Or.inr rfl
  rw [← g.reference_eq_servedPath_iff name]
  rcases houtcome with ⟨e, he⟩ | hok
  · simp [he, Except.isOk, Except.toBool]
  · simp [hok, Except.isOk, Except.toBool]

/-- Without the slash in front the reference leads nowhere, though the service shows the file. -/
theorem persist_refers_elsewhere :
    let g : Gallery := { directory := "shots", urlPrefix := "screenshot" }
    (g.persist "a.png" [0] {}).1 = .ok "screenshot/a.png" ∧
      g.servedPath "a.png" = "/screenshot/a.png" ∧
      Route.ofPath g.mountPath "/screenshot/a.png" = .file "/a.png" ∧
      Route.ofPath g.mountPath "screenshot/a.png" = .unknown := by
  decide +kernel

end Gallery

end Outband
