import Rehearsal.Proofs.Files.Clean

/-!
# Where a path leads, and what keeps it from being told

`walk` looks names up one by one. Here that is said without it: `Goes` is one step along a path, past a dot, up, into a
directory or through a link. A path `Leads` to an entry if steps lead to where it stands, and it is `Blocked` if they lead to
where no further step can be made although there is something to go on from: a file with names behind it, a directory that
cannot be searched, a name that is too long, a link too many.

The main law is about a disk (`Disk.sought_find`). A path is found exactly if it `Resolves`; where that cannot be said it is
`Untold`, and looking for it is refused for another reason than that nothing is there. Of what is left it is known that nothing
is there: it is `Missing`.
-/

namespace Rehearsal.Files

/-- A place on the way along a path: how many links may be followed from there, the directory that was come to, and what is
left of the path. -/
structure Waypoint where
  links : Nat
  directory : List String
  path : List String

/-- A directory that names can be looked up in. -/
def Tree.Searchable (t : Tree) (directory : List String) : Prop :=
  ∃ here, t.get? directory = some here ∧ here.isDirectory = true ∧ here.allows searchBit = true

/-- A name that is looked up: neither one dot nor two, and not too long. -/
structure IsName (name : String) : Prop where
  dot : name ≠ "."
  dots : name ≠ ".."
  short : name.utf8ByteSize ≤ maxName

section Ways

variable (t : Tree)

/-- One step along a path. -/
inductive Goes : Waypoint → Waypoint → Prop where
  | dot {links directory rest} (h : t.Searchable directory) :
    Goes ⟨links, directory, "." :: rest⟩ ⟨links, directory, rest⟩
  | dots {links directory rest} (h : t.Searchable directory) :
    Goes ⟨links, directory, ".." :: rest⟩ ⟨links, up directory, rest⟩
  | into {links directory name rest e} (h : t.Searchable directory) (hname : IsName name)
    (hget : t.get? (directory ++ [name]) = some e) (hdir : e.isDirectory = true) :
    Goes ⟨links, directory, name :: rest⟩ ⟨links, directory ++ [name], rest⟩
  | link {links directory name rest target} (h : t.Searchable directory) (hname : IsName name)
    (hget : t.get? (directory ++ [name]) = some (.link target)) :
    Goes ⟨links + 1, directory, name :: rest⟩
      ⟨links, if Path.isAbsolute target then [] else directory, steps target ++ rest⟩

/-- What a path leads to, and where that stands. -/
inductive Leads : Waypoint → List String → Entry → Prop where
  | here {links directory e} (hget : t.get? directory = some e) : Leads ⟨links, directory, []⟩ directory e
  | last {links directory name e} (h : t.Searchable directory) (hname : IsName name)
    (hget : t.get? (directory ++ [name]) = some e) (hend : e.isEnd = true) :
    Leads ⟨links, directory, [name]⟩ (directory ++ [name]) e
  | go {w w' place e} (h : Goes t w w') (hleads : Leads w' place e) : Leads w place e

/-- Why a path cannot be followed although there is something to go on from. -/
inductive Blocked : Waypoint → Refusal → Prop where
  | notDirectory {links directory name rest here} (hget : t.get? directory = some here) (h : here.isDirectory = false) :
    Blocked ⟨links, directory, name :: rest⟩ .notDirectory
  | noAccess {links directory name rest here} (hget : t.get? directory = some here) (hdir : here.isDirectory = true)
    (h : here.allows searchBit = false) : Blocked ⟨links, directory, name :: rest⟩ .noAccess
  | nameTooLong {links directory name rest} (h : t.Searchable directory) (hdot : name ≠ ".") (hdots : name ≠ "..")
    (hlong : maxName < name.utf8ByteSize) : Blocked ⟨links, directory, name :: rest⟩ .nameTooLong
  | file {links directory name rest e} (h : t.Searchable directory) (hname : IsName name)
    (hget : t.get? (directory ++ [name]) = some e) (hend : e.isEnd = true) (hrest : rest ≠ []) :
    Blocked ⟨links, directory, name :: rest⟩ .notDirectory
  | tooManyLinks {directory name rest target} (h : t.Searchable directory) (hname : IsName name)
    (hget : t.get? (directory ++ [name]) = some (.link target)) :
    Blocked ⟨0, directory, name :: rest⟩ .tooManyLinks
  | go {w w' why} (h : Goes t w w') (hblocked : Blocked w' why) : Blocked w why

end Ways

variable {t : Tree} {w w' : Waypoint} {place : List String} {e : Entry} {why : Refusal}

/-- What is walked to from a waypoint, links followed. -/
def Waypoint.walked (t : Tree) (w : Waypoint) : Except Refusal Spot := walk t true w.links w.directory w.path

section Walk

variable {links : Nat} {directory rest : List String} {name : String}

theorem walk_dot (h : t.Searchable directory) :
    walk t true links directory ("." :: rest) = walk t true links directory rest := by
  obtain ⟨here, hget, hdir, hsearch⟩ := h
  rw [walk, hget]
  simp only [hdir, hsearch, Bool.not_true, Bool.false_eq_true, if_false, beq_self_eq_true, if_true]

theorem walk_dots (h : t.Searchable directory) :
    walk t true links directory (".." :: rest) = walk t true links (up directory) rest := by
  obtain ⟨here, hget, hdir, hsearch⟩ := h
  have hdot : (".." == ".") = false := by decide
  rw [walk, hget]
  simp only [hdir, hsearch, hdot, Bool.not_true, Bool.false_eq_true, if_false, beq_self_eq_true, if_true]

/-- A name that is looked up is a name of the directory. -/
theorem walk_name (h : t.Searchable directory) (hname : IsName name) :
    walk t true links directory (name :: rest) =
      match t.get? (directory ++ [name]) with
      | none => if rest.isEmpty then .ok (.free directory name) else .error .notFound
      | some (.link target) =>
        match links with
        | 0 => .error .tooManyLinks
        | links + 1 => walk t true links (if Path.isAbsolute target then [] else directory) (steps target ++ rest)
      | some e =>
        if rest.isEmpty then .ok (.entry (directory ++ [name]) e)
        else if e.isDirectory then walk t true links (directory ++ [name]) rest
        else .error .notDirectory := by
  obtain ⟨here, hget, hdir, hsearch⟩ := h
  have hdot : (name == ".") = false := beq_eq_false_iff_ne.mpr hname.dot
  have hdots : (name == "..") = false := beq_eq_false_iff_ne.mpr hname.dots
  have hshort : ¬maxName < name.utf8ByteSize := Nat.not_lt.mpr hname.short
  rw [walk, hget]
  simp only [hdir, hsearch, hdot, hdots, hshort, Bool.not_true, Bool.false_eq_true, if_false]
  cases t.get? (directory ++ [name]) with
  | none => rfl
  | some e =>
    cases e with
    | link target => exact if_neg (by simp)
    | file | directory | device => rfl

end Walk

/-- A step along a path does not change where the path leads. -/
theorem Goes.walked_eq (h : Goes t w w') : w.walked t = w'.walked t := by
  cases h with
  | dot h => exact walk_dot h
  | dots h => exact walk_dots h
  | @into links directory name rest e h hname hget hdir =>
    rw [Waypoint.walked, walk_name h hname, hget, Waypoint.walked]
    cases e with
    | directory mode =>
      cases rest with
      | nil => simp [walk, hget]
      | cons => rfl
    | file | link | device => cases hdir
  | link h hname hget =>
    rw [Waypoint.walked, walk_name h hname, hget]
    rfl

theorem Leads.walked_eq (h : Leads t w place e) : w.walked t = .ok (.entry place e) := by
  induction h with
  | here hget => rw [Waypoint.walked, walk, hget]
  | @last links directory name e h hname hget hend =>
    rw [Waypoint.walked, walk_name h hname, hget]
    cases e with
    | link => cases hend
    | file | directory | device => rfl
  | go h _ ih => rw [h.walked_eq, ih]

/-- A way is never blocked for want of an entry. -/
theorem Blocked.ne_notFound (h : Blocked t w why) : why ≠ .notFound := by
  induction h with
  | go _ _ ih => exact ih
  | _ => decide

theorem Blocked.walked_eq (h : Blocked t w why) : w.walked t = .error why := by
  induction h with
  | notDirectory hget h =>
    rw [Waypoint.walked, walk, hget]
    simp [h]
  | noAccess hget hdir h =>
    rw [Waypoint.walked, walk, hget]
    simp [hdir, h]
  | nameTooLong h hdot hdots hlong =>
    obtain ⟨here, hget, hdir, hsearch⟩ := h
    rw [Waypoint.walked, walk, hget]
    simp [hdir, hsearch, hdot, hdots, hlong]
  | @file links directory name rest e h hname hget hend hrest =>
    rw [Waypoint.walked, walk_name h hname, hget]
    cases e with
    | link | directory => cases hend
    | file | device => simp [hrest, Entry.isDirectory]
  | tooManyLinks h hname hget => rw [Waypoint.walked, walk_name h hname, hget]
  | go h _ ih => rw [h.walked_eq, ih]

theorem searchable_of {directory : List String} {here : Entry} (hget : t.get? directory = some here)
    (hdir : ¬(!here.isDirectory) = true) (hsearch : ¬(!here.allows searchBit) = true) : t.Searchable directory :=
  ⟨here, hget, by simpa using hdir, by simpa using hsearch⟩

theorem isName_of {name : String} (hdot : ¬(name == ".") = true) (hdots : ¬(name == "..") = true)
    (hshort : ¬maxName < name.utf8ByteSize) : IsName name :=
  ⟨fun h => hdot (beq_iff_eq.mpr h), fun h => hdots (beq_iff_eq.mpr h), Nat.not_lt.mp hshort⟩

theorem isEnd_of (hnolink : ∀ target, e = .link target → False) (hdir : e.isDirectory = false) : e.isEnd = true := by
  cases e with
  | link target => exact (hnolink target rfl).elim
  | directory => cases hdir
  | file | device => rfl

/-- What comes of a path from a waypoint. -/
inductive Waypoint.Outcome (t : Tree) (w : Waypoint) : Except Refusal Spot → Prop where
  | leads {place : List String} {e : Entry} (h : Leads t w place e) : Outcome t w (.ok (.entry place e))
  | blocked {why : Refusal} (h : Blocked t w why) : Outcome t w (.error why)
  | nothing : Outcome t w (.error .notFound)
  | free (directory : List String) (name : String) : Outcome t w (.ok (.free directory name))

theorem Waypoint.Outcome.go {r : Except Refusal Spot} (h : Goes t w w') (h' : w'.Outcome t r) : w.Outcome t r := by
  cases h' with
  | leads hleads => exact .leads (.go h hleads)
  | blocked hblocked => exact .blocked (.go h hblocked)
  | nothing => exact .nothing
  | free directory name => exact .free directory name

/-- Whatever a path comes to, there is a way along it that says so. -/
theorem outcome_walk (t : Tree) (links : Nat) (directory path : List String) :
    Waypoint.Outcome t ⟨links, directory, path⟩ (walk t true links directory path) := by
  fun_induction walk t true links directory path
  case case1 hhere => exact .leads (.here hhere)
  case case4 hhere hdir => exact .blocked (.notDirectory hhere (by simpa using hdir))
  case case5 hhere hdir hsearch => exact .blocked (.noAccess hhere (by simpa using hdir) (by simpa using hsearch))
  case case6 hhere hdir hsearch hdot ih =>
    obtain rfl := eq_of_beq hdot
    exact .go (.dot (searchable_of hhere hdir hsearch)) ih
  case case7 hhere hdir hsearch hdot hdots ih =>
    obtain rfl := eq_of_beq hdots
    exact .go (.dots (searchable_of hhere hdir hsearch)) ih
  case case8 hhere hdir hsearch hdot hdots hlong =>
    exact .blocked (.nameTooLong (searchable_of hhere hdir hsearch) (by simpa using hdot) (by simpa using hdots) hlong)
  case case11 hstop => simp at hstop
  case case12 hhere hdir hsearch hdot hdots hshort target hlink hstop =>
    exact .blocked (.tooManyLinks (searchable_of hhere hdir hsearch) (isName_of hdot hdots hshort) hlink)
  case case13 hhere hdir hsearch hdot hdots hshort target hlink hstop links ih =>
    exact .go (.link (searchable_of hhere hdir hsearch) (isName_of hdot hdots hshort) hlink) ih
  case case14 hhere hdir hsearch hdot hdots hshort e hnolink hentry hstop =>
    have hsearchable := searchable_of hhere hdir hsearch
    have hname := isName_of hdot hdots hshort
    obtain rfl := List.isEmpty_iff.mp hstop
    cases hnext : e.isDirectory with
    | true => exact .leads (.go (.into hsearchable hname hentry hnext) (.here hentry))
    | false => exact .leads (.last hsearchable hname hentry (isEnd_of hnolink hnext))
  case case15 hhere hdir hsearch hdot hdots hshort e hnolink hentry hstop hnext ih =>
    exact .go (.into (searchable_of hhere hdir hsearch) (isName_of hdot hdots hshort) hentry hnext) ih
  case case16 hhere hdir hsearch hdot hdots hshort e hnolink hentry hstop hend =>
    have hrest : _ ≠ [] := mt List.isEmpty_iff.mpr hstop
    exact .blocked (.file (searchable_of hhere hdir hsearch) (isName_of hdot hdots hshort) hentry
      (isEnd_of hnolink (by simpa using hend)) hrest)
  case case9 => exact .free _ _
  all_goals exact .nothing

theorem Waypoint.outcome_walked (t : Tree) (w : Waypoint) : w.Outcome t (w.walked t) :=
  outcome_walk t w.links w.directory w.path

/-- **A path is walked to an entry exactly if it leads there.** -/
theorem walked_eq_entry_iff : w.walked t = .ok (.entry place e) ↔ Leads t w place e := by
  refine ⟨fun h => ?_, Leads.walked_eq⟩
  have houtcome := w.outcome_walked t
  rw [h] at houtcome
  cases houtcome with
  | leads hleads => exact hleads

/-- **A walk is refused, and not because nothing is there, exactly if it is blocked.** -/
theorem walked_eq_error_iff : w.walked t = .error why ∧ why ≠ .notFound ↔ Blocked t w why := by
  refine ⟨fun ⟨h, hwhy⟩ => ?_, fun h => ⟨h.walked_eq, h.ne_notFound⟩⟩
  have houtcome := w.outcome_walked t
  rw [h] at houtcome
  cases houtcome with
  | blocked hblocked => exact hblocked
  | nothing => exact absurd rfl hwhy

theorem Blocked.path_ne_nil (h : Blocked t w why) : w.path ≠ [] := by
  cases h with
  | go h => cases h <;> simp
  | _ => simp

/-! ## Disks -/

namespace Disk

/-- Where the way along a path begins. -/
def departure (d : Disk) (p : String) : Waypoint :=
  ⟨maxLinks, if Path.isAbsolute p then [] else d.base, Path.pieces p⟩

/-- A path leads, links followed, to an entry that is there. With a slash at its end it asks for a directory. -/
structure Resolves (d : Disk) (p : String) (e : Entry) : Prop where
  plain : p.contains '\x00' = false
  nonempty : p ≠ ""
  short : p.utf8ByteSize ≤ maxPath
  leads : ∃ place, Leads d.tree (d.departure p) place e
  slash : endsInSlash p = true → e.isDirectory = true

/-- It cannot be told what is at a path. -/
inductive Untold (d : Disk) (p : String) : Prop where
  | null (h : p.contains '\x00' = true)
  | long (h : maxPath < p.utf8ByteSize)
  | blocked {why : Refusal} (h : Blocked d.tree (d.departure p) why)
  /-- What is there is no directory, and there is a slash behind it. -/
  | noDirectory {place : List String} {e : Entry} (h : Leads d.tree (d.departure p) place e)
    (hslash : endsInSlash p = true) (hdir : e.isDirectory = false)

/-- Nothing is at a path, and that is known. -/
structure Missing (d : Disk) (p : String) : Prop where
  nothing : ∀ e, ¬d.Resolves p e
  known : ¬d.Untold p

variable {d : Disk} {p : String}

/-- **A path is found exactly if it resolves.** -/
theorem find_eq_ok_iff_resolves : (∃ place, d.find true p = .ok (place, e)) ↔ d.Resolves p e := by
  simp only [find_eq_ok_iff, locate_eq_ok_iff]
  constructor
  · rintro ⟨place, hplain, hslash, hne, hshort, hwalk⟩
    exact ⟨hplain, hne, hshort, ⟨place, walked_eq_entry_iff.mp hwalk⟩, hslash⟩
  · rintro ⟨hplain, hne, hshort, ⟨place, hleads⟩, hslash⟩
    exact ⟨place, hplain, hslash, hne, hshort, walked_eq_entry_iff.mpr hleads⟩

/-- A path that the system takes is looked for by walking along it. -/
theorem find_of_walked (hplain : p.contains '\x00' = false) (hne : p ≠ "") (hshort : p.utf8ByteSize ≤ maxPath) :
    d.find true p =
      match (d.departure p).walked d.tree with
      | .ok (.entry place e) =>
        if endsInSlash p && !e.isDirectory then .error (.refused .notDirectory p none) else .ok (place, e)
      | .ok (.free ..) => .error (.refused .notFound p none)
      | .error why => .error (.refused why p none) := by
  have hlocate : locate d.tree d.base true p = (d.departure p).walked d.tree := by
    rw [locate, if_neg (mt String.isEmpty_iff.mp hne), if_neg (Nat.not_lt.mpr hshort)]
    rfl
  rw [find, hplain, if_neg Bool.false_ne_true, Files.find, Bool.true_or, hlocate]
  rcases (d.departure p).walked d.tree with why | ⟨place, e⟩ | ⟨directory, name⟩
  · rfl
  · dsimp only
    cases endsInSlash p && !e.isDirectory <;> rfl
  · rfl

theorem Resolves.not_untold (h : d.Resolves p e) : ¬d.Untold p := by
  obtain ⟨place, hleads⟩ := h.leads
  intro huntold
  cases huntold with
  | null hnull => exact absurd (h.plain.symm.trans hnull) Bool.false_ne_true
  | long hlong => exact absurd h.short (Nat.not_le.mpr hlong)
  | blocked hblocked => cases hleads.walked_eq.symm.trans hblocked.walked_eq
  | noDirectory hleads' hslash hdir =>
    cases hleads.walked_eq.symm.trans hleads'.walked_eq
    exact absurd (hdir.symm.trans (h.slash hslash)) Bool.false_ne_true

/-- Nothing is at a path that neither leads anywhere nor is blocked. -/
theorem missing_of_walked (hplain : p.contains '\x00' = false) (hshort : p.utf8ByteSize ≤ maxPath)
    (hleads : ∀ place e, ¬Leads d.tree (d.departure p) place e) (hblocked : ∀ why, ¬Blocked d.tree (d.departure p) why) :
    d.Missing p := by
  refine ⟨fun e h => ?_, fun huntold => ?_⟩
  · obtain ⟨place, h⟩ := h.leads
    exact hleads place e h
  · cases huntold with
    | null h => exact absurd (hplain.symm.trans h) Bool.false_ne_true
    | long h => exact absurd hshort (Nat.not_le.mpr h)
    | blocked h => exact hblocked _ h
    | noDirectory h => exact hleads _ _ h

theorem missing_empty (d : Disk) : d.Missing "" := by
  have hpieces : (d.departure "").path = [] := by
    rw [departure, Path.pieces, show "".splitOn "/" = _ from Line.splitOn_singleton '/' ""]
    rfl
  have hend : ¬endsInSlash "" = true := by
    rw [endsInSlash, Path.endsWith_iff]
    decide
  refine ⟨fun e h => h.nonempty rfl, fun huntold => ?_⟩
  cases huntold with
  | null h => exact absurd h (by rw [String.contains_char_eq]; decide)
  | long h => exact absurd h (by decide)
  | blocked h => exact h.path_ne_nil hpieces
  | noDirectory h hslash => exact hend hslash

/-- What comes of looking for a path. -/
inductive Sought (d : Disk) (p : String) : Except Error (List String × Entry) → Prop where
  | resolved {place : List String} {e : Entry} (h : d.Resolves p e) : Sought d p (.ok (place, e))
  | missing (h : d.Missing p) : Sought d p (.error (.refused .notFound p none))
  | untold {e : Error} (h : d.Untold p) (hwhy : ∀ path link, e ≠ .refused .notFound path link) : Sought d p (.error e)

/-- What comes of looking for a path that the system takes. -/
theorem sought_of_walked (hplain : p.contains '\x00' = false) (hne : p ≠ "") (hshort : p.utf8ByteSize ≤ maxPath) :
    d.Sought p (d.find true p) := by
  have houtcome := (d.departure p).outcome_walked d.tree
  rw [find_of_walked hplain hne hshort]
  generalize hwalked : (d.departure p).walked d.tree = r at houtcome
  cases houtcome with
  | leads h =>
    dsimp only
    cases hslash : endsInSlash p && !Entry.isDirectory _ with
    | true =>
      rw [Bool.and_eq_true, Bool.not_eq_true'] at hslash
      exact .untold (.noDirectory h hslash.1 hslash.2) fun _ _ heq => by cases heq
    | false =>
      rw [Bool.and_eq_false_imp] at hslash
      exact .resolved ⟨hplain, hne, hshort, ⟨_, h⟩, fun hend => by simpa using hslash hend⟩
  | blocked h => exact .untold (.blocked h) fun _ _ heq => h.ne_notFound (Error.refused.inj heq).1
  | nothing =>
    refine .missing (missing_of_walked hplain hshort (fun _ _ h => ?_) fun _ h => ?_)
    · cases h.walked_eq.symm.trans hwalked
    · cases h.walked_eq.symm.trans hwalked
      exact h.ne_notFound rfl
  | free directory name =>
    refine .missing (missing_of_walked hplain hshort (fun _ _ h => ?_) fun _ h => ?_)
    · cases h.walked_eq.symm.trans hwalked
    · cases h.walked_eq.symm.trans hwalked

/-- **A path resolves, or it is missing, or it is untold**, and looking for it says which. -/
theorem sought_find (d : Disk) (p : String) : d.Sought p (d.find true p) := by
  by_cases hplain : p.contains '\x00' = true
  · rw [find, if_pos hplain]
    exact .untold (.null hplain) fun _ _ heq => by cases heq
  rw [Bool.not_eq_true] at hplain
  by_cases hne : p = ""
  · subst hne
    have hfind : d.find true "" = .error (.refused .notFound "" none) := by
      rw [find, hplain]
      rfl
    rw [hfind]
    exact .missing d.missing_empty
  by_cases hshort : p.utf8ByteSize ≤ maxPath
  · exact sought_of_walked hplain hne hshort
  · have hlong := Nat.not_le.mp hshort
    have hfind : d.find true p = .error (.refused .nameTooLong p none) := by
      rw [find, hplain, if_neg Bool.false_ne_true, Files.find, Bool.true_or, locate, if_neg (mt String.isEmpty_iff.mp hne),
        if_pos hlong]
    rw [hfind]
    exact .untold (.long hlong) fun _ _ heq => by cases heq

/-- A path resolves to one entry. -/
theorem Resolves.unique {e' : Entry} (h : d.Resolves p e) (h' : d.Resolves p e') : e = e' := by
  obtain ⟨place, hfind⟩ := find_eq_ok_iff_resolves.mpr h
  obtain ⟨place', hfind'⟩ := find_eq_ok_iff_resolves.mpr h'
  cases hfind.symm.trans hfind'
  rfl

end Disk

end Rehearsal.Files
