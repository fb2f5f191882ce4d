import Outband.Files
import Mathlib.Data.List.Basic
/-! Where the paths into a tree of files lead. A path that can be followed ends at the place that its
pieces spell, and what makes directories changes nothing but that it adds some on the way. -/

namespace Outband

namespace Path

/-- One piece further. -/
def step (place : Place) (piece : String) : Place :=
  if piece == "." then place
  else if piece == ".." then place.dropLast
  else place ++ [piece]

/-- The place that pieces lead to, from another. -/
def lead (place : Place) (pieces : List String) : Place := pieces.foldl step place

/-- The levels that a path has climbed and the names that it went down from there, one piece
further. -/
def turn (course : Nat × List String) (piece : String) : Nat × List String :=
  if piece == "." then course
  else if piece == ".." then
    if course.2.isEmpty then (course.1 + 1, []) else (course.1, course.2.dropLast)
  else (course.1, course.2 ++ [piece])

/-- How many levels pieces climb, and the names that they go down in the end. -/
def course (pieces : List String) : Nat × List String := pieces.foldl turn (0, [])

/-- The place that a course comes to. -/
def along (place : Place) (course : Nat × List String) : Place :=
  place.take (place.length - course.1) ++ course.2

variable {place : Place} {directory name : String}

theorem along_turn (place : Place) (c : Nat × List String) (piece : String) :
    along place (turn c piece) = step (along place c) piece := by
  obtain ⟨up, down⟩ := c
  unfold turn step along
  by_cases hstay : piece == "."
  · rw [if_pos hstay, if_pos hstay]
  rw [if_neg hstay, if_neg hstay]
  by_cases hup : piece == ".."
  · rw [if_pos hup, if_pos hup]
    cases down with
    | nil =>
      have hshort : place.length - (up + 1) = place.length - up - 1 := by omega
      simp only [List.isEmpty_nil, if_true, List.append_nil, hshort, List.dropLast_eq_take,
        List.length_take, List.take_take]
      congr 1
      omega
    | cons first rest =>
      simp only [List.isEmpty_cons, Bool.false_eq_true, if_false]
      rw [List.dropLast_append_of_ne_nil (by simp)]
  · rw [if_neg hup, if_neg hup, List.append_assoc]

/-- Pieces lead where their course comes to. -/
theorem lead_eq_along (place : Place) (pieces : List String) :
    lead place pieces = along place (course pieces) := by
  have hgeneral (c : Nat × List String) :
      pieces.foldl step (along place c) = along place (pieces.foldl turn c) := by
    induction pieces generalizing c with
    | nil => rfl
    | cons piece rest ih => rw [List.foldl_cons, List.foldl_cons, ← along_turn, ih]
  have hstart : along place (0, []) = place := by simp [along]
  have h := hgeneral (0, [])
  rwa [hstart] at h

/-- A course comes to a place right below just when it goes down again by the names it climbed, and
by one more. -/
theorem lead_child_iff {pieces : List String} :
    (∃ last, lead place pieces = place ++ [last]) ↔
      ∃ last, (course pieces).2 = place.drop (place.length - (course pieces).1) ++ [last] := by
  refine exists_congr fun last => ?_
  rw [lead_eq_along, along]
  conv_lhs => rhs; rw [← List.take_append_drop (place.length - (course pieces).1) place]
  rw [List.append_assoc, List.append_cancel_left_eq]

theorem pieces_slash (before after : List Char) :
    pieces (String.ofList (before ++ '/' :: after)) =
      pieces (String.ofList before) ++ pieces (String.ofList after) := by
  simp only [pieces, String.toList_ofList, List.splitOn]
  rw [List.splitOnP_append_cons before after (by rfl), List.map_append, List.filter_append]

theorem pieces_name (h : '/' ∉ name.toList) (hname : name ≠ "") : pieces name = [name] := by
  have hnone : ∀ c ∈ name.toList, (c == '/') = false := by
    intro c hc
    rw [beq_eq_false_iff_ne]
    rintro rfl
    exact h hc
  rw [pieces, List.splitOn, List.splitOnP_eq_singleton hnone]
  simp [hname]

theorem isAbsolute_join :
    isAbsolute (join directory name) = (isAbsolute name || isAbsolute directory) := by
  unfold join
  by_cases habsolute : isAbsolute name
  · rw [if_pos habsolute, habsolute, Bool.true_or]
  · rw [if_neg habsolute, Bool.eq_false_iff.mpr habsolute, Bool.false_or]
    by_cases hempty : directory = ""
    · subst hempty
      simpa [isAbsolute] using habsolute
    · obtain ⟨c, rest, hcons⟩ :=
        List.exists_cons_of_ne_nil (fun h => hempty (String.toList_eq_nil_iff.mp h))
      split <;> simp [isAbsolute, hcons]

theorem pieces_join :
    pieces (join directory name) =
      if isAbsolute name then pieces name else pieces directory ++ pieces name := by
  unfold join
  split
  · rfl
  · split
    · rename_i hwhole
      rcases Bool.or_eq_true_iff.mp hwhole with hempty | hslash
      · have hnone : directory = "" := by simpa using hempty
        rw [hnone, String.empty_append]
        rfl
      · obtain ⟨before, hbefore⟩ := List.getLast?_eq_some_iff.mp (by simpa [endsInSlash] using hslash)
        have hdirectory : directory = String.ofList (before ++ '/' :: []) := by
          rw [← hbefore, String.ofList_toList]
        have hjoined : directory ++ name = String.ofList (before ++ '/' :: name.toList) := by
          rw [hdirectory]
          exact String.toList_injective (by simp)
        rw [hjoined, hdirectory, pieces_slash, pieces_slash, String.ofList_toList]
        simp [pieces]
    · have hjoined :
          directory ++ "/" ++ name = String.ofList (directory.toList ++ '/' :: name.toList) :=
        String.toList_injective (by simp)
      rw [hjoined, pieces_slash, String.ofList_toList, String.ofList_toList]

/-- A relative path below a directory ends as it does by itself. -/
theorem exists_toList_join (directory : String) (h : isAbsolute name = false) :
    ∃ front, (∀ c ∈ front, c ∈ directory.toList ∨ c = '/') ∧
      (join directory name).toList = front ++ name.toList := by
  unfold join
  rw [if_neg (by simp [h])]
  split
  · exact ⟨directory.toList, fun c hc => Or.inl hc, by simp⟩
  · refine ⟨directory.toList ++ ['/'], fun c hc => ?_, by simp⟩
    rcases List.mem_append.mp hc with hc | hc
    · exact Or.inl hc
    · exact Or.inr (List.mem_singleton.mp hc)

end Path

namespace Files

variable {files later made after : Files} {start place : Place} {pieces : List String}
  {path : String} {content : Bytes} {found : Found}

/-- The place that a path spells, whatever stands there. -/
def placeOf (files : Files) (path : String) : Place :=
  Path.lead (files.start path) (Path.pieces path)

/-- A path below a directory goes on from where the directory is, or from the root. -/
theorem placeOf_join (files : Files) (directory name : String) :
    files.placeOf (Path.join directory name) =
      Path.lead (if Path.isAbsolute name then [] else files.placeOf directory)
        (Path.pieces name) := by
  rw [placeOf, Path.pieces_join, start, Path.isAbsolute_join]
  by_cases habsolute : Path.isAbsolute name
  · simp [habsolute]
  · simp only [Bool.eq_false_iff.mpr habsolute, Bool.false_or, Bool.false_eq_true, if_false, placeOf,
      Path.lead, List.foldl_append, start]

theorem ne_root (h : files.entry? place ≠ some .directory) : place ≠ [] := by
  rintro rfl
  exact h rfl

theorem lookup_replace (entry : Entry) (entries : List (Place × Entry)) (p : Place) :
    (put.replace place entry entries).lookup p =
      if p = place then some entry else entries.lookup p := by
  induction entries with
  | nil =>
    by_cases h : p = place
    · simp [put.replace, h]
    · simp [put.replace, List.lookup_cons, h, beq_eq_false_iff_ne.mpr h]
  | cons first rest ih =>
    obtain ⟨q, e⟩ := first
    rw [put.replace]
    split
    · rename_i hq
      subst hq
      by_cases h : p = q
      · simp [h]
      · simp [List.lookup_cons, h, beq_eq_false_iff_ne.mpr h]
    · rename_i hq
      rw [List.lookup_cons, ih, List.lookup_cons]
      by_cases h : p = q
      · subst h
        simp [hq]
      · simp [beq_eq_false_iff_ne.mpr h]

/-- What was put at a place is there, and all other places are as they were. -/
theorem entry?_put (files : Files) (entry : Entry) (hplace : place ≠ []) (p : Place) :
    Files.entry? (files.put place entry) p = if p = place then some entry else files.entry? p := by
  unfold entry? put
  cases p with
  | nil => simp [Ne.symm hplace]
  | cons name rest => simpa using lookup_replace entry files.entries (name :: rest)

/-- What a place shows. -/
def look (files : Files) (place : Place) : Found :=
  match files.entry? place with
  | some entry => .entry place entry
  | none => .vacant place

theorem look_some {entry : Entry} (h : files.entry? place = some entry) :
    files.look place = .entry place entry := by rw [look, h]

theorem look_none (h : files.entry? place = none) : files.look place = .vacant place := by
  rw [look, h]

/-- A piece that names an entry, and does not only stay or lead up. -/
def IsName (piece : String) : Prop :=
  piece ≠ "." ∧ piece ≠ ".." ∧ piece.utf8ByteSize ≤ maxName

/-- How pieces are followed to what they lead to. All names but the last are those of directories. -/
inductive Walks (files : Files) : Place → List String → Found → Prop
  | here (start : Place) : Walks files start [] (.entry start .directory)
  | stay {start : Place} {rest : List String} {found : Found} (h : Walks files start rest found) :
      Walks files start ("." :: rest) found
  | up {start : Place} {rest : List String} {found : Found}
      (h : Walks files start.dropLast rest found) : Walks files start (".." :: rest) found
  | down {start : Place} {piece : String} {rest : List String} {found : Found}
      (hname : IsName piece) (hentry : files.entry? (start ++ [piece]) = some .directory)
      (h : Walks files (start ++ [piece]) rest found) : Walks files start (piece :: rest) found
  | last {start : Place} {piece : String} (hname : IsName piece) :
      Walks files start [piece] (files.look (start ++ [piece]))

theorem walk_name {piece : String} (hname : IsName piece) (rest : List String) :
    files.walk start (piece :: rest) =
      match files.entry? (start ++ [piece]), rest with
      | some .directory, rest => files.walk (start ++ [piece]) rest
      | some file, [] => .ok (.entry (start ++ [piece]) file)
      | some _, _ => .error .notDirectory
      | none, [] => .ok (.vacant (start ++ [piece]))
      | none, _ => .error .missing := by
  obtain ⟨hstay, hup, hlength⟩ := hname
  rw [walk, if_neg (by simpa using hstay), if_neg (by simpa using hup)]
  exact if_neg (Nat.not_lt.mpr hlength)

theorem walks_of_walk (h : files.walk start pieces = .ok found) :
    files.Walks start pieces found := by
  induction pieces generalizing start with
  | nil =>
    cases h
    exact .here start
  | cons piece rest ih =>
    by_cases hname : IsName piece
    · have hlast : files.Walks start [piece] (files.look (start ++ [piece])) := .last hname
      rw [walk_name hname] at h
      cases hentry : files.entry? (start ++ [piece]) with
      | none =>
        rw [look_none hentry] at hlast
        rw [hentry] at h
        cases rest <;> cases h
        exact hlast
      | some entry =>
        rw [look_some hentry] at hlast
        rw [hentry] at h
        cases entry with
        | directory => exact .down hname hentry (ih h)
        | file content executable =>
          cases rest <;> cases h
          exact hlast
    · rw [walk] at h
      by_cases hstay : piece = "."
      · subst hstay
        exact .stay (ih h)
      by_cases hup : piece = ".."
      · subst hup
        exact .up (ih h)
      rw [if_neg (by simpa using hstay), if_neg (by simpa using hup)] at h
      split at h
      · cases h
      · exact absurd ⟨hstay, hup, by omega⟩ hname

theorem Walks.walk (h : files.Walks start pieces found) : files.walk start pieces = .ok found := by
  induction h with
  | here start => rfl
  | stay _ ih =>
    rw [Files.walk]
    exact ih
  | up _ ih =>
    rw [Files.walk]
    exact ih
  | down hname hentry _ ih =>
    rw [walk_name hname, hentry]
    exact ih
  | @last start piece hname =>
    rw [walk_name hname]
    cases hentry : files.entry? (start ++ [piece]) with
    | none => rw [look_none hentry]
    | some entry =>
      rw [look_some hentry]
      cases entry <;> rfl

/-- No directory of the tree is gone or became a file. -/
def Keeps (files later : Files) : Prop :=
  ∀ p, files.entry? p = some .directory → later.entry? p = some .directory

theorem Keeps.refl (files : Files) : files.Keeps files := fun _ h => h

theorem Keeps.trans (h : files.Keeps made) (h' : made.Keeps later) : files.Keeps later :=
  fun p hp => h' p (h p hp)

theorem lead_name {piece : String} (hname : IsName piece) (rest : List String) :
    Path.lead start (piece :: rest) = Path.lead (start ++ [piece]) rest := by
  simp [Path.lead, Path.step, hname.1, hname.2.1]

/-- Pieces that can be followed lead to the place that they spell, in this tree and in any later one
that keeps the directories. -/
theorem Walks.keeps (hkeeps : files.Keeps later) (h : files.Walks start pieces found) :
    found = .entry (Path.lead start pieces) .directory ∧ later.Walks start pieces found ∨
      found = files.look (Path.lead start pieces) ∧
        later.Walks start pieces (later.look (Path.lead start pieces)) := by
  induction h with
  | here start => exact Or.inl ⟨rfl, .here start⟩
  | stay _ ih => exact ih.imp (And.imp_right .stay) (And.imp_right .stay)
  | up _ ih => exact ih.imp (And.imp_right .up) (And.imp_right .up)
  | down hname hentry _ ih =>
    rw [lead_name hname]
    have hlater := hkeeps _ hentry
    exact ih.imp (And.imp_right (.down hname hlater)) (And.imp_right (.down hname hlater))
  | last hname =>
    rw [lead_name hname]
    exact Or.inr ⟨rfl, .last hname⟩

theorem walk_keeps (hkeeps : files.Keeps later) (h : files.walk start pieces = .ok found) :
    found = .entry (Path.lead start pieces) .directory ∧ later.walk start pieces = .ok found ∨
      found = files.look (Path.lead start pieces) ∧
        later.walk start pieces = .ok (later.look (Path.lead start pieces)) :=
  ((walks_of_walk h).keeps hkeeps).imp (And.imp_right Walks.walk) (And.imp_right Walks.walk)

/-- What a path to a place can find there. That a directory is one is not looked up again at the end
of a path. -/
inductive Shows (files : Files) (place : Place) : Found → Prop
  | directory : Shows files place (.entry place .directory)
  | file {content : Bytes} {executable : Bool}
      (h : files.entry? place = some (.file content executable)) :
      Shows files place (.entry place (.file content executable))
  | vacant (h : files.entry? place = none) : Shows files place (.vacant place)

theorem Shows.ne_directory (h : files.Shows place found) (hfound : found ≠ .entry place .directory) :
    files.entry? place ≠ some .directory := by
  cases h with
  | directory => exact absurd rfl hfound
  | file hfile => simp [hfile]
  | vacant hnone => simp [hnone]

theorem shows_look (files : Files) (place : Place) : files.Shows place (files.look place) := by
  cases hentry : files.entry? place with
  | none =>
    rw [look_none hentry]
    exact .vacant hentry
  | some entry =>
    rw [look_some hentry]
    cases entry with
    | directory => exact .directory
    | file content executable => exact .file hentry

theorem walk_shows (h : files.walk start pieces = .ok found) :
    files.Shows (Path.lead start pieces) found := by
  rcases walk_keeps (Keeps.refl files) h with ⟨rfl, _⟩ | ⟨rfl, _⟩
  · exact .directory
  · exact shows_look files _

theorem exists_of_bind {ε α β : Type} {x : Except ε α} {f : α → Except ε β} {b : β}
    (h : x >>= f = .ok b) : ∃ a, x = .ok a ∧ f a = .ok b := by
  cases x with
  | error e => cases h
  | ok a => exact ⟨a, rfl, h⟩

theorem makeDirectory_ok (h : files.makeDirectory start pieces = .ok made) :
    ∃ place, files.walk start pieces = .ok (.vacant place) ∧ made = files.put place .directory := by
  unfold makeDirectory at h
  split at h
  · cases h
  · split at h
    · obtain ⟨found, -, h⟩ := exists_of_bind h
      rcases found with ⟨place, _ | _⟩ | place <;> cases h
    · obtain ⟨found, hwalk, h⟩ := exists_of_bind h
      rcases found with ⟨place, entry⟩ | place <;> cases h
      exact ⟨place, hwalk, rfl⟩

theorem start_put (entry : Entry) (path : String) :
    (files.put place entry).start path = files.start path := rfl

/-- Nothing but a directory stands where something is put. -/
theorem keeps_put {entry : Entry} (h : files.entry? place ≠ some .directory) :
    files.Keeps (files.put place entry) := by
  intro p hp
  rw [entry?_put files entry (ne_root h), if_neg, hp]
  rintro rfl
  exact h hp

/-- Directories were added on the way that pieces lead, and nothing else is different. -/
structure Grown (start : Place) (pieces : List String) (files later : Files) : Prop where
  here : later.here = files.here
  entry : ∀ p, later.entry? p = files.entry? p ∨
    (∃ way, way <+: pieces ∧ p = Path.lead start way) ∧ files.entry? p = none ∧
      later.entry? p = some .directory

theorem Grown.refl (files : Files) : Grown start pieces files files :=
  ⟨rfl, fun _ => Or.inl rfl⟩

theorem Grown.trans {before : List String} (hbefore : before <+: pieces)
    (h : Grown start before files made) (h' : Grown start pieces made later) :
    Grown start pieces files later := by
  refine ⟨h'.here.trans h.here, fun p => ?_⟩
  rcases h.entry p with hsame | ⟨⟨way, hway, hp⟩, hnone, hmade⟩
  · rw [← hsame]
    exact h'.entry p
  · refine Or.inr ⟨⟨way, hway.trans hbefore, hp⟩, hnone, ?_⟩
    rcases h'.entry p with hsame | ⟨_, hnew, _⟩
    · exact hsame.trans hmade
    · rw [hmade] at hnew
      cases hnew

theorem Grown.start_eq (h : Grown start pieces files later) (path : String) :
    later.start path = files.start path := by rw [Files.start, Files.start, h.here]

theorem Grown.keeps (h : Grown start pieces files later) : files.Keeps later := by
  intro p hp
  rcases h.entry p with hsame | ⟨_, hnone, _⟩
  · exact hsame.trans hp
  · rw [hp] at hnone
    cases hnone

/-- One directory is made where there was nothing, and its path leads to it. -/
theorem makeDirectory_grown (h : files.makeDirectory start pieces = .ok made) :
    Grown start pieces files made ∧
      made.walk start pieces = .ok (.entry (Path.lead start pieces) .directory) := by
  obtain ⟨place, hwalk, rfl⟩ := makeDirectory_ok h
  cases walk_shows hwalk
  rename_i hnone
  have hother : files.entry? (Path.lead start pieces) ≠ some .directory := by simp [hnone]
  have hput := entry?_put files .directory (ne_root hother)
  have hlook := look_some ((hput (Path.lead start pieces)).trans (if_pos rfl))
  refine ⟨⟨rfl, fun p => ?_⟩, ?_⟩
  · rw [hput p]
    by_cases hp : p = Path.lead start pieces
    · rw [if_pos hp, hp]
      exact Or.inr ⟨⟨pieces, List.prefix_rfl, rfl⟩, hnone, rfl⟩
    · rw [if_neg hp]
      exact Or.inl rfl
  · rcases walk_keeps (keeps_put hother) hwalk with ⟨hdirectory, _⟩ | ⟨_, hlater⟩
    · cases hdirectory
    · rw [hlater, hlook]

/-- Where a directory was to be made there is one afterwards, if that is what is said. -/
theorem settleDirectory_grown {outcome : Except FileFault Files} (files : Files) (start : Place)
    (pieces : List String)
    (h : ∀ made, outcome = .ok made → Grown start pieces files made ∧
      made.walk start pieces = .ok (.entry (Path.lead start pieces) .directory)) :
    Grown start pieces files (files.settleDirectory start pieces outcome).2 ∧
      ((files.settleDirectory start pieces outcome).1 = .ok () →
        (files.settleDirectory start pieces outcome).2.walk start pieces =
          .ok (.entry (Path.lead start pieces) .directory)) := by
  unfold settleDirectory
  split
  · rename_i made
    exact ⟨(h made rfl).1, fun _ => (h made rfl).2⟩
  · split
    · rename_i place hwalk
      have hplace : place = Path.lead start pieces := by
        cases walk_shows hwalk
        rfl
      exact ⟨Grown.refl files, fun _ => hplace ▸ hwalk⟩
    · exact ⟨Grown.refl files, fun hok => by cases hok⟩

theorem reverse_dropWhile_drop (p : String → Bool) (reversed : List String) :
    (((reversed.dropWhile p).drop 1).dropWhile p).reverse <+: reversed.reverse := by
  rw [List.reverse_prefix]
  exact (List.dropWhile_suffix p).trans ((List.drop_suffix 1 _).trans (List.dropWhile_suffix p))

/-- What is added is on the way to the directory that was asked for, and in the end it is there. -/
theorem makeDirectories_grown (files : Files) (start : Place) (reversed : List String) :
    Grown start reversed.reverse files (files.makeDirectories start reversed).2 ∧
      ((files.makeDirectories start reversed).1 = .ok () →
        (files.makeDirectories start reversed).2.walk start reversed.reverse =
          .ok (.entry (Path.lead start reversed.reverse) .directory)) := by
  fun_induction files.makeDirectories start reversed with
  | case1 => exact ⟨Grown.refl files, fun _ => rfl⟩
  | case2 piece before pieces hmissing parent grown hparents ih =>
    rw [hparents] at ih
    obtain ⟨hgrown, hgood⟩ := settleDirectory_grown grown start pieces
      fun made hmade => makeDirectory_grown hmade
    exact ⟨ih.1.trans (reverse_dropWhile_drop _ _) hgrown, hgood⟩
  | case3 piece before pieces hmissing parent fault grown hparents ih =>
    rw [hparents] at ih
    refine ⟨?_, fun hok => by cases hok⟩
    exact ih.1.trans (reverse_dropWhile_drop _ _) (Grown.refl grown)
  | case4 piece before pieces hother =>
    exact settleDirectory_grown files start pieces fun made hmade => makeDirectory_grown hmade

theorem walk_directory_keeps (hkeeps : files.Keeps later)
    (h : files.walk start pieces = .ok (.entry place .directory)) :
    later.walk start pieces = .ok (.entry place .directory) := by
  rcases walk_keeps hkeeps h with ⟨_, hlater⟩ | ⟨hlook, hlater⟩
  · exact hlater
  · cases hentry : files.entry? (Path.lead start pieces) with
    | none =>
      rw [look_none hentry] at hlook
      cases hlook
    | some entry =>
      rw [look_some hentry] at hlook
      cases hlook
      rw [hlater, look_some (hkeeps _ hentry)]

theorem Walks.append {way : List String} (h : files.Walks start pieces (.entry place .directory))
    (hway : files.Walks place way found) : files.Walks start (pieces ++ way) found := by
  generalize hend : Found.entry place .directory = last at h
  induction h with
  | here start =>
    cases hend
    exact hway
  | stay _ ih => exact .stay (ih hend)
  | up _ ih => exact .up (ih hend)
  | down hname hentry _ ih => exact .down hname hentry (ih hend)
  | @last start piece hname =>
    cases hentry : files.entry? (start ++ [piece]) with
    | none =>
      rw [look_none hentry] at hend
      cases hend
    | some entry =>
      rw [look_some hentry] at hend
      cases hend
      exact .down hname hentry hway

/-- What leads to something has led to a directory before its last piece. -/
theorem Walks.init {piece : String} (h : files.Walks start (pieces ++ [piece]) found) :
    ∃ place, files.Walks start pieces (.entry place .directory) := by
  induction pieces generalizing start with
  | nil => exact ⟨start, .here start⟩
  | cons first rest ih =>
    rw [List.cons_append] at h
    generalize hmore : rest ++ [piece] = more at h
    cases h with
    | stay h =>
      obtain ⟨place, hplace⟩ := ih (hmore ▸ h)
      exact ⟨place, .stay hplace⟩
    | up h =>
      obtain ⟨place, hplace⟩ := ih (hmore ▸ h)
      exact ⟨place, .up hplace⟩
    | down hname hentry h =>
      obtain ⟨place, hplace⟩ := ih (hmore ▸ h)
      exact ⟨place, .down hname hentry hplace⟩
    | last hname => simp at hmore

theorem Walks.eq_lead (h : files.Walks start pieces (.entry place .directory)) :
    place = Path.lead start pieces := by
  cases walk_shows h.walk
  rfl

theorem find_eq_ok_iff {entry : Entry} :
    files.find path = .ok (place, entry) ↔
      checkPath path = .ok () ∧
        files.walk (files.start path)
          (Path.pieces path ++ if Path.endsInSlash path then ["."] else []) =
            .ok (.entry place entry) := by
  unfold find
  cases hpath : checkPath path with
  | error fault => simp [bind, Except.bind]
  | ok _ =>
    simp only [bind, Except.bind, true_and]
    generalize files.walk (files.start path) _ = outcome
    rcases outcome with fault | ⟨place, entry⟩ | place <;> simp

theorem read_of_find {executable : Bool} (h : files.find path = .ok (place, .file content executable)) :
    files.read path = .ok content := by
  unfold read
  rw [h]
  rfl

/-- A slash at the end of a path changes nothing where the path leads to a directory. -/
theorem find_directory (hpath : checkPath path = .ok ())
    (h : files.walk (files.start path) (Path.pieces path) = .ok (.entry place .directory)) :
    files.find path = .ok (place, .directory) := by
  have hwalks := walks_of_walk h
  refine find_eq_ok_iff.mpr ⟨hpath, ?_⟩
  cases Path.endsInSlash path with
  | true => exact (hwalks.append (.stay (.here place))).walk
  | false => exact (hwalks.append (.here place)).walk

/-- A path to a directory goes on leading to it as long as directories are kept. -/
theorem find_directory_keeps (hhere : later.here = files.here) (hkeeps : files.Keeps later)
    (h : files.find path = .ok (place, .directory)) :
    later.find path = .ok (place, .directory) := by
  obtain ⟨hpath, hwalk⟩ := find_eq_ok_iff.mp h
  have hstart : later.start path = files.start path := by rw [start, start, hhere]
  exact find_eq_ok_iff.mpr ⟨hpath, hstart ▸ walk_directory_keeps hkeeps hwalk⟩

/-- A path to a file leads to the file that stands there later. -/
theorem find_file_keeps {executable executable' : Bool} {content' : Bytes}
    (hhere : later.here = files.here) (hkeeps : files.Keeps later)
    (h : files.find path = .ok (place, .file content executable))
    (hlater : later.entry? place = some (.file content' executable')) :
    later.find path = .ok (place, .file content' executable') := by
  obtain ⟨hpath, hwalk⟩ := find_eq_ok_iff.mp h
  have hstart : later.start path = files.start path := by rw [start, start, hhere]
  refine find_eq_ok_iff.mpr ⟨hpath, ?_⟩
  rw [hstart]
  cases walk_shows hwalk
  rcases walk_keeps hkeeps hwalk with ⟨hdirectory, _⟩ | ⟨_, hlook⟩
  · cases hdirectory
  · rw [hlook, look_some hlater]

theorem walks_of_find (h : files.find path = .ok (place, .directory)) :
    files.Walks (files.start path) (Path.pieces path) (.entry (files.placeOf path) .directory) := by
  have hwalks : ∃ place, files.Walks (files.start path) (Path.pieces path)
      (.entry place .directory) := by
    obtain ⟨-, hwalk⟩ := find_eq_ok_iff.mp h
    cases hslash : Path.endsInSlash path with
    | true =>
      rw [hslash, if_pos rfl] at hwalk
      exact (walks_of_walk hwalk).init
    | false =>
      rw [hslash, if_neg (by simp), List.append_nil] at hwalk
      exact ⟨place, walks_of_walk hwalk⟩
  obtain ⟨place, hwalks⟩ := hwalks
  rwa [placeOf, ← hwalks.eq_lead]

theorem makeDirectory_exists (h : files.Walks start pieces (.entry place .directory)) :
    files.makeDirectory start pieces = .error .exists := by
  unfold makeDirectory
  cases hlast : pieces.getLast? with
  | none => rfl
  | some last =>
    obtain ⟨before, rfl⟩ := List.getLast?_eq_some_iff.mp hlast
    obtain ⟨above, habove⟩ := h.init
    dsimp only
    split
    · rw [List.dropLast_concat, habove.walk]
      rfl
    · rw [h.walk]
      rfl

/-- A directory that is there already is left alone. -/
theorem createDirectory_exists (h : path ≠ "" → files.find path = .ok (place, .directory)) :
    files.createDirectory path = (.ok (), files) := by
  unfold createDirectory
  by_cases hempty : path = ""
  · rw [if_pos (by simp [hempty])]
  · rw [if_neg (by simpa using hempty), (find_eq_ok_iff.mp (h hempty)).1]
    have hwalks := walks_of_find (h hempty)
    dsimp only
    cases hreverse : (Path.pieces path).reverse with
    | nil => rw [makeDirectories]
    | cons piece before =>
      have hpieces : (piece :: before).reverse = Path.pieces path := by
        rw [← hreverse, List.reverse_reverse]
      rw [makeDirectories, hpieces, makeDirectory_exists hwalks]
      simp only [settleDirectory, hwalks.walk]

/-- A directory that was created, with what it lies in, is where its path leads. -/
theorem createDirectory_grown (files : Files) (path : String) :
    Grown (files.start path) (Path.pieces path) files (files.createDirectory path).2 ∧
      ((files.createDirectory path).1 = .ok () → path ≠ "" →
        (files.createDirectory path).2.find path = .ok (files.placeOf path, .directory)) := by
  unfold createDirectory
  split
  · rename_i hempty
    refine ⟨Grown.refl files, fun _ hpath => absurd ?_ hpath⟩
    simpa using hempty
  · cases hpath : checkPath path with
    | error fault => exact ⟨Grown.refl files, fun hok => by cases hok⟩
    | ok _ =>
      obtain ⟨hgrown, hgood⟩ := makeDirectories_grown files (files.start path)
        (Path.pieces path).reverse
      rw [List.reverse_reverse] at hgrown hgood
      refine ⟨hgrown, fun hok _ => find_directory hpath ?_⟩
      rw [hgrown.start_eq]
      exact hgood hok

theorem write_walk (h : files.write path content = .ok after) :
    checkPath path = .ok () ∧ Path.endsInSlash path = false ∧
      ∃ found executable, files.walk (files.start path) (Path.pieces path) = .ok found ∧
        found ≠ .entry (files.placeOf path) .directory ∧
        after = files.put (files.placeOf path) (.file content executable) := by
  unfold write at h
  obtain ⟨_, hpath, h⟩ := exists_of_bind h
  refine ⟨hpath, ?_⟩
  split at h
  · obtain ⟨found, -, h⟩ := exists_of_bind h
    rcases found with ⟨place, _ | _⟩ | place <;> cases h
  · rename_i hslash
    refine ⟨Bool.eq_false_iff.mpr hslash, ?_⟩
    obtain ⟨found, hwalk, h⟩ := exists_of_bind h
    have hshows := walk_shows hwalk
    cases hshows with
    | directory => cases h
    | file hfile =>
      cases h
      exact ⟨_, _, hwalk, by simp, rfl⟩
    | vacant hnone =>
      cases h
      exact ⟨_, _, hwalk, by simp, rfl⟩

/-- What is written is what the path leads to afterwards. Nothing else is different, and it takes the
place of no directory. -/
theorem write_ok (h : files.write path content = .ok after) :
    ∃ executable, files.entry? (files.placeOf path) ≠ some .directory ∧
      after = files.put (files.placeOf path) (.file content executable) ∧
      after.find path = .ok (files.placeOf path, .file content executable) := by
  obtain ⟨hpath, hslash, found, executable, hwalk, hfound, rfl⟩ := write_walk h
  have hother : files.entry? (files.placeOf path) ≠ some .directory :=
    (walk_shows hwalk).ne_directory hfound
  refine ⟨executable, hother, rfl, ?_⟩
  have hput := entry?_put files (.file content executable) (ne_root hother) (files.placeOf path)
  rw [if_pos rfl] at hput
  rcases walk_keeps (keeps_put hother) hwalk with ⟨hdirectory, _⟩ | ⟨_, hlater⟩
  · exact absurd hdirectory hfound
  · rw [← placeOf, look_some hput, ← start_put (.file content executable) path] at hlater
    refine find_eq_ok_iff.mpr ⟨hpath, ?_⟩
    rw [hslash, if_neg (by simp), List.append_nil, hlater]

theorem checkPath_eq_ok_iff : checkPath path = .ok () ↔ '\x00' ∉ path.toList ∧ path ≠ "" := by
  unfold checkPath
  by_cases hzero : '\x00' ∈ path.toList
  · simp [hzero]
  · by_cases hempty : path = "" <;> simp [hzero, hempty]

/-- A file can be written wherever its path leads to a name that is not that of a directory. -/
theorem write_look (hpath : checkPath path = .ok ()) (hslash : Path.endsInSlash path = false)
    (hwalk : files.walk (files.start path) (Path.pieces path) = .ok (files.look place))
    (hother : files.entry? place ≠ some .directory) :
    ∃ executable, files.write path content = .ok (files.put place (.file content executable)) := by
  unfold write
  rw [hpath]
  simp only [bind, Except.bind, hslash, Bool.false_eq_true, if_false, hwalk]
  cases hentry : files.entry? place with
  | none =>
    rw [look_none hentry]
    exact ⟨false, rfl⟩
  | some entry =>
    rw [look_some hentry]
    cases entry with
    | directory => exact absurd hentry hother
    | file old executable => exact ⟨executable, rfl⟩

end Files

end Outband
