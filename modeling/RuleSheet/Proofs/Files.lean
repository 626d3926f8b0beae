import RuleSheet.Files.Tree
import RuleSheet.Proofs.CatalogHistory
import RuleSheet.Proofs.Except
import RuleSheet.Proofs.Text.Cuts

/-!
# What file operations keep

Writing a file and making folders change a tree at the places they are meant for and nowhere else.
In particular a path that leads somewhere leads there afterwards as well, and a file that can be
read and is not written has the same content.

## Main definitions

* `RuleSheet.FileTree.Grown` — one tree has all that another one has, apart from files at some
  places.

## Main results

* `RuleSheet.FileTree.Grown.contentAt`, `Grown.contentAt_back` — what can be read in a tree can be
  read in a grown one, and the other way round if no folders were made.
* `RuleSheet.FileTree.grown_writeContent`, `grown_makeFolders` — writing and making folders let a
  tree grow.
* `RuleSheet.FileTree.hasFolder_of_writeContent` — writing a file makes no folders.

## Design

A tree need not be well formed: it may list a file at a place where it has a folder.  `Grown` says
of folders that nothing about files changes there, which is all that following a path needs.
-/

set_option autoImplicit false

namespace RuleSheet

open Text

/-! ### Folders -/

namespace Path

/-- Pieces are cut off at the end only. -/
lemma trimPieces_isPrefix (pieces : List Text) : trimPieces pieces <+: pieces :=
  List.rdropWhile_prefix _ pieces

/-- What is left without the last piece is a part of the pieces, and not all of them. -/
lemma exists_behind {pieces : List Text} (h : trimPieces pieces ≠ []) :
    ∃ behind, behind ≠ [] ∧ trimPieces (trimPieces pieces).dropLast ++ behind = pieces := by
  obtain ⟨after, hafter⟩ := trimPieces_isPrefix pieces
  obtain ⟨cut, hcut⟩ := trimPieces_isPrefix (trimPieces pieces).dropLast
  refine ⟨cut ++ (trimPieces pieces).getLast h :: after, by simp, ?_⟩
  calc trimPieces (trimPieces pieces).dropLast ++ (cut ++ (trimPieces pieces).getLast h :: after)
      = (trimPieces pieces).dropLast ++ [(trimPieces pieces).getLast h] ++ after := by
        rw [← List.append_assoc, hcut, List.append_assoc, List.singleton_append]
    _ = pieces := by rw [List.dropLast_append_getLast, hafter]

/-- The path without its last component is the working directory, the root, or leads to the path. -/
lemma isPrefix_of_parent? {path outer : Text} (h : parent? path = some outer) :
    outer = [] ∨ outer = ['/'] ∨ outer ++ ['/'] <+: path := by
  obtain ⟨first, others, hsplit⟩ := List.exists_cons_of_ne_nil (List.splitOn_ne_nil '/' path)
  rw [parent?, hsplit] at h
  dsimp only at h
  split at h
  next =>
    split at h
    · cases h
    · exact .inl (Option.some.inj h).symm
  next kept hkept =>
    split at h
    · exact .inr (.inl (Option.some.inj h).symm)
    · obtain rfl := Option.some.inj h
      obtain ⟨behind, hne, hothers⟩ := exists_behind hkept
      have hpath : Text.join ['/'] (path.splitOn '/') = path := List.intercalate_splitOn '/'
      rw [hsplit, ← hothers, ← List.cons_append, join_append (by simp) hne] at hpath
      exact .inr (.inr ⟨Text.join ['/'] behind, by rw [← hpath]; simp⟩)

end Path

namespace FileTree

variable {tree tree' : FileTree}

/-- A folder is around the working directory, the root, listed, or holds something. -/
lemma hasFolder_iff (tree : FileTree) (place : Text) :
    tree.hasFolder place = true ↔ isAround place = true ∨ place = ['/'] ∨
      tree.listed.find? place = some .folder ∨
      ∃ other entry, tree.listed.find? other = some entry ∧ place ++ ['/'] <+: other := by
  have hholds : (∃ e ∈ tree.listed.entries, startsWith (place ++ ['/']) e.1 = true) ↔
      ∃ other entry, tree.listed.find? other = some entry ∧ place ++ ['/'] <+: other := by
    simp only [Prod.exists, Dictionary.find?_eq_some_iff, startsWith, Option.isSome_iff_exists,
      after?_eq_some_iff]
    constructor
    · rintro ⟨other, entry, hmem, rest, hrest⟩
      exact ⟨other, entry, hmem, rest, hrest.symm⟩
    · rintro ⟨other, entry, hmem, rest, hrest⟩
      exact ⟨other, entry, hmem, rest, hrest.symm⟩
  rw [← hholds]
  simp only [hasFolder, Bool.or_eq_true, decide_eq_true_eq, List.any_eq_true, or_assoc]

/-- The working directory and the folders around it are closed under taking folders around. -/
lemma isAround_child {place : Text} (h : isAround place = true) :
    isAround (child place "..") = true := by
  rw [child]
  split
  next hplace =>
    rcases hplace with rfl | rfl
    · decide
    · exact absurd h (by decide)
  next hplace =>
    rw [isAround, Bool.or_eq_true, decide_eq_true_eq] at h
    rcases h with rfl | h
    · exact absurd (.inl rfl) hplace
    · rw [isAround, List.splitOn_append_cons_self, List.all_append, h]
      simp [List.splitOn_eq_singleton]

/-- A folder in front of a slash is around the working directory if what it leads to is. -/
lemma isAround_of_isPrefix {place other : Text} (h : isAround other = true)
    (hstart : place ++ ['/'] <+: other) : isAround place = true := by
  obtain ⟨rest, rfl⟩ := hstart
  rw [isAround, Bool.or_eq_true, decide_eq_true_eq] at h ⊢
  rcases h with h | h
  · simp at h
  · rw [List.append_assoc, List.singleton_append, List.splitOn_append_cons_self, List.all_append,
      Bool.and_eq_true] at h
    exact .inr h.1

/-- A folder in front of a slash is there if what it leads to is a folder. -/
lemma hasFolder_of_isPrefix {place other : Text} (h : tree.hasFolder other = true)
    (hstart : place ++ ['/'] <+: other) : tree.hasFolder place = true := by
  rw [hasFolder_iff] at h ⊢
  rcases h with h | rfl | h | ⟨inner, entry, hinner, hleads⟩
  · exact .inl (isAround_of_isPrefix h hstart)
  · obtain ⟨rest, hrest⟩ := hstart
    obtain rfl : place = [] := by
      cases place with
      | nil => rfl
      | cons c place => simp at hrest
    exact .inl rfl
  · exact .inr (.inr (.inr ⟨other, _, h, hstart⟩))
  · have hthrough : place ++ ['/'] <+: inner :=
      hstart.trans ((List.prefix_append other ['/']).trans hleads)
    exact .inr (.inr (.inr ⟨inner, entry, hinner, hthrough⟩))

/-- The folder around a folder is there. -/
lemma hasFolder_outer {place : Text} (h : tree.hasFolder place = true) :
    tree.hasFolder (outer place) = true := by
  unfold outer
  split
  next haround => exact (hasFolder_iff tree _).mpr (.inl (isAround_child haround))
  next =>
    cases hparent : Path.parent? place with
    | none => exact (hasFolder_iff tree _).mpr (.inr (.inl rfl))
    | some around =>
      rcases Path.isPrefix_of_parent? hparent with rfl | rfl | hstart
      · exact (hasFolder_iff tree _).mpr (.inl rfl)
      · exact (hasFolder_iff tree _).mpr (.inr (.inl rfl))
      · exact hasFolder_of_isPrefix h hstart

/-- A name inside a folder has no folders in front of it but that one and those around it. -/
lemma hasFolder_of_isPrefix_child {place folder name : Text} (h : tree.hasFolder folder = true)
    (hname : '/' ∉ name) (hstart : place ++ ['/'] <+: child folder name) :
    tree.hasFolder place = true := by
  have hwithin : ∀ inner : Text, ¬ inner ++ ['/'] <+: name := by
    intro inner hinner
    exact hname (hinner.subset (by simp))
  unfold child at hstart
  split at hstart
  next hfolder =>
    rcases hfolder with rfl | rfl
    · exact absurd hstart (hwithin place)
    · cases place with
      | nil => exact (hasFolder_iff tree _).mpr (.inl rfl)
      | cons c place => exact absurd (List.cons_prefix_cons.mp hstart).2 (hwithin place)
  next =>
    obtain ⟨rest, hrest⟩ := hstart
    rw [List.append_assoc, List.singleton_append] at hrest
    rcases List.append_eq_append_iff.mp hrest with ⟨more, rfl, hmore⟩ | ⟨more, rfl, hmore⟩
    · cases more with
      | nil => rwa [List.append_nil] at h
      | cons c more =>
        obtain ⟨rfl, -⟩ := List.cons.inj hmore
        exact hasFolder_of_isPrefix h ⟨more, by simp⟩
    · cases more with
      | nil => rwa [List.append_nil]
      | cons c more =>
        obtain ⟨rfl, hinside⟩ := List.cons.inj hmore
        exact absurd ⟨rest, by rw [hinside]; simp⟩ (hwithin more)

/-! ### Following a path -/

/-- Where pieces lead does not depend on the tree. -/
lemma eq_of_follow {place found : Text} {pieces : List Text}
    (h : tree.follow place pieces = .ok found) : found = pieces.foldl step place := by
  induction pieces generalizing place with
  | nil => exact (Except.ok.inj h).symm
  | cons piece pieces ih =>
    rw [follow] at h
    split at h
    · cases h
    · split at h
      · cases h
      · exact ih h

/-- Where a path leads does not depend on the tree. -/
lemma eq_of_locate {path place : Text} (h : tree.locate path = .ok place) :
    place = placeOf path := by
  rw [locate, locatePieces] at h
  split at h
  · cases h
  · exact eq_of_follow h

/-- The last but one place on a path is a folder. -/
lemma hasFolder_of_follow {place last found : Text} {front : List Text}
    (h : tree.follow place (front ++ [last]) = .ok found) :
    tree.hasFolder (front.foldl step place) = true ∧
      found = step (front.foldl step place) last := by
  refine ⟨?_, by rw [eq_of_follow h, List.foldl_append]; rfl⟩
  induction front generalizing place with
  | nil =>
    rw [List.nil_append, follow] at h
    split at h
    · cases h
    · split at h
      · cases h
      next hfolder => simpa using hfolder
  | cons piece front ih =>
    rw [List.cons_append, follow] at h
    split at h
    · cases h
    · split at h
      · cases h
      · exact ih h

/-- From a folder only a name leads to something else than a folder. -/
lemma step_eq_child {folder piece : Text} (hfolder : tree.hasFolder folder = true)
    (hstep : tree.hasFolder (step folder piece) = false) :
    step folder piece = child folder piece := by
  unfold step at hstep ⊢
  split
  next hstay =>
    rw [if_pos hstay, hfolder] at hstep
    cases hstep
  next hstay =>
    rw [if_neg hstay] at hstep
    split
    next hup =>
      rw [if_pos hup, hasFolder_outer hfolder] at hstep
      cases hstep
    next => rfl

/-- A path that leads to something else than a folder ends with a name, and the name is that of an
entry of a folder. -/
lemma exists_child_of_locate {path place : Text} (h : tree.locate path = .ok place)
    (hplace : tree.hasFolder place = false) :
    ∃ front folder name, path.splitOn '/' = front ++ [name] ∧
      front.foldl step (startOf path) = folder ∧ tree.hasFolder folder = true ∧
      '/' ∉ name ∧ place = child folder name := by
  obtain ⟨front, name, hsplit⟩ : ∃ front name, path.splitOn '/' = front ++ [name] :=
    ⟨_, _, (List.dropLast_append_getLast (List.splitOn_ne_nil '/' path)).symm⟩
  have hslash : '/' ∉ name := not_mem_of_mem_splitOn (t := path) (by simp [hsplit])
  rw [locate, locatePieces] at h
  split at h
  · cases h
  · rw [hsplit] at h
    obtain ⟨hfolder, hfound⟩ := hasFolder_of_follow h
    rw [hfound] at hplace ⊢
    exact ⟨front, _, name, hsplit, rfl, hfolder, hslash, step_eq_child hfolder hplace⟩

/-! ### Trees that grow -/

/-- The second tree has all that the first one has, apart from the files at the given places, none
of which is a folder of the first tree. -/
structure Grown (written : List Text) (tree tree' : FileTree) : Prop where
  /-- Folders stay, and no files come or go where they are. -/
  folder : ∀ place, tree.hasFolder place = true →
    tree'.hasFolder place = true ∧ tree'.file? place = tree.file? place
  /-- Files stay at all other places. -/
  file : ∀ place, place ∉ written → tree'.file? place = tree.file? place

namespace Grown

variable {written written' : List Text} {tree'' : FileTree}

lemma refl (written : List Text) (tree : FileTree) : Grown written tree tree :=
  ⟨fun _ h => ⟨h, rfl⟩, fun _ _ => rfl⟩

/-- A tree may grow twice. -/
lemma trans (h : Grown written tree tree') (h' : Grown written' tree' tree'') :
    Grown (written ++ written') tree tree'' where
  folder place hplace := by
    obtain ⟨hfolder, hfile⟩ := h.folder place hplace
    obtain ⟨hfolder', hfile'⟩ := h'.folder place hfolder
    exact ⟨hfolder', hfile'.trans hfile⟩
  file place hplace := by
    rw [List.mem_append, not_or] at hplace
    rw [h'.file place hplace.2, h.file place hplace.1]

/-- Pieces that lead somewhere lead there in a grown tree. -/
lemma follow (h : Grown written tree tree') {place found : Text} {pieces : List Text}
    (hfound : tree.follow place pieces = .ok found) : tree'.follow place pieces = .ok found := by
  induction pieces generalizing place with
  | nil => exact hfound
  | cons piece pieces ih =>
    rw [FileTree.follow] at hfound ⊢
    split at hfound
    · cases hfound
    next hnofile =>
      split at hfound
      · cases hfound
      next hfolder =>
        obtain ⟨hfolder', hfile'⟩ := h.folder place (by simpa using hfolder)
        rw [hfile', if_neg hnofile, hfolder']
        exact ih hfound

/-- So do paths. -/
lemma locate (h : Grown written tree tree') {path place : Text}
    (hplace : tree.locate path = .ok place) : tree'.locate path = .ok place := by
  rw [FileTree.locate, locatePieces] at hplace ⊢
  split at hplace
  · cases hplace
  next hne =>
    rw [if_neg hne]
    exact h.follow hplace

/-- Folders are found where they were. -/
lemma isFolder (h : Grown written tree tree') {path : Text} (hpath : tree.isFolder path = true) :
    tree'.isFolder path = true := by
  unfold FileTree.isFolder at hpath ⊢
  cases hlocate : tree.locate path with
  | error failure => simp [hlocate] at hpath
  | ok place =>
    rw [hlocate] at hpath
    rw [h.locate hlocate]
    exact (h.folder place hpath).1

end Grown

/-- What a path has to lead to for its content to be found. -/
lemma contentAt_eq_ok_iff (tree : FileTree) (path : Text) (content : Content) :
    tree.contentAt path = .ok content ↔
      ∃ place, tree.locate path = .ok place ∧ tree.file? place = some content := by
  rw [contentAt, Except.bind_eq_ok_iff]
  refine exists_congr fun place => and_congr_right fun _ => ?_
  cases tree.file? place with
  | some other => simp [pure, Except.pure]
  | none =>
    cases tree.hasFolder place with
    | false => simp [throw, throwThe, MonadExceptOf.throw]
    | true => simp [throw, throwThe, MonadExceptOf.throw]

/-- A file that can be read is there. -/
lemma hasEntry_of_contentAt {path : Text} {content : Content}
    (h : tree.contentAt path = .ok content) : tree.hasEntry path = true := by
  obtain ⟨place, hplace, hfile⟩ := (contentAt_eq_ok_iff tree path content).mp h
  simp [hasEntry, hplace, hfile]

/-- **What can be read in a tree can be read in a grown one**, if it was not written. -/
lemma Grown.contentAt {written : List Text} (h : Grown written tree tree') {path : Text}
    {content : Content} (hpath : placeOf path ∉ written)
    (hcontent : tree.contentAt path = .ok content) : tree'.contentAt path = .ok content := by
  obtain ⟨place, hplace, hfile⟩ := (contentAt_eq_ok_iff tree path content).mp hcontent
  rw [← eq_of_locate hplace] at hpath
  exact (contentAt_eq_ok_iff tree' path content).mpr
    ⟨place, h.locate hplace, (h.file place hpath).trans hfile⟩

/-- The text of a file is its content. -/
lemma read_eq_ok_iff (tree : FileTree) (path text : Text) :
    tree.read path = .ok text ↔ tree.contentAt path = .ok (.text text) := by
  rw [read, Except.bind_eq_ok_iff]
  constructor
  · rintro ⟨content, hcontent, h⟩
    cases content with
    | text other =>
      obtain rfl := Except.ok.inj h
      exact hcontent
    | binary bytes => cases h
  · exact fun h => ⟨_, h, rfl⟩

/-- A text that can be read in a tree can be read in a grown one, if it was not written. -/
lemma Grown.read {written : List Text} (h : Grown written tree tree') {path text : Text}
    (hpath : placeOf path ∉ written) (hread : tree.read path = .ok text) :
    tree'.read path = .ok text := by
  rw [read_eq_ok_iff] at hread ⊢
  exact h.contentAt hpath hread

/-! ### Writing -/

/-- Everything that writing a file does. -/
lemma of_writeContent {path : Text} {content : Content}
    (h : tree.writeContent path content = .ok tree') :
    tree.locate path = .ok (placeOf path) ∧ tree.hasFolder (placeOf path) = false ∧
      tree' = ⟨tree.listed.insert (placeOf path) (.file content)⟩ := by
  unfold writeContent at h
  split at h
  · obtain ⟨-, -, hthrown⟩ := Except.bind_eq_ok_iff.mp h
    cases hthrown
  · obtain ⟨place, hlocate, hinsert⟩ := Except.bind_eq_ok_iff.mp h
    obtain rfl := eq_of_locate hlocate
    split at hinsert
    next => cases hinsert
    next hfolder => exact ⟨hlocate, by simpa using hfolder, (Except.ok.inj hinsert).symm⟩

/-- Everything that making a folder does. -/
lemma of_makeFolder {path : Text} (h : tree.makeFolder path = .ok tree') :
    tree.locate path = .ok (placeOf path) ∧ tree.file? (placeOf path) = none ∧
      tree' = ⟨tree.listed.insert (placeOf path) .folder⟩ := by
  unfold makeFolder at h
  obtain ⟨place, hlocate, hinsert⟩ := Except.bind_eq_ok_iff.mp h
  obtain rfl := eq_of_locate hlocate
  split at hinsert
  next => cases hinsert
  next hnothing =>
    rw [Bool.or_eq_true, not_or] at hnothing
    exact ⟨hlocate, by simpa using hnothing.1, (Except.ok.inj hinsert).symm⟩

section Insert

variable {place other : Text} {entry : FileEntry}

/-- The file at a place that was listed anew. -/
lemma file?_insert_self (content : Content) :
    file? ⟨tree.listed.insert place (.file content)⟩ place = some content := by
  rw [file?, Dictionary.find?_insert_self]

/-- The files at other places. -/
lemma file?_insert_of_ne (h : other ≠ place) :
    file? ⟨tree.listed.insert place entry⟩ other = tree.file? other := by
  rw [file?, file?, Dictionary.find?_insert_of_ne _ h]

/-- Folders at other places stay. -/
lemma hasFolder_insert (hother : tree.hasFolder other = true) (h : other ≠ place) :
    hasFolder ⟨tree.listed.insert place entry⟩ other = true := by
  rw [hasFolder_iff] at hother ⊢
  rcases hother with hother | hother | hother | ⟨inner, found, hinner, hleads⟩
  · exact .inl hother
  · exact .inr (.inl hother)
  · exact .inr (.inr (.inl ((Dictionary.find?_insert_of_ne _ h _).trans hother)))
  · by_cases hplace : inner = place
    · subst hplace
      exact .inr (.inr (.inr ⟨inner, entry, Dictionary.find?_insert_self _ _ _, hleads⟩))
    · exact .inr (.inr (.inr ⟨inner, found,
        (Dictionary.find?_insert_of_ne _ hplace _).trans hinner, hleads⟩))

end Insert

/-- **Writing a file lets a tree grow.** -/
lemma grown_writeContent {path : Text} {content : Content}
    (h : tree.writeContent path content = .ok tree') : Grown [placeOf path] tree tree' := by
  obtain ⟨-, hfolder, rfl⟩ := of_writeContent h
  refine ⟨fun place hplace => ?_, fun place hplace => file?_insert_of_ne (by simpa using hplace)⟩
  have hne : place ≠ placeOf path := by
    rintro rfl
    rw [hplace] at hfolder
    cases hfolder
  exact ⟨hasFolder_insert hplace hne, file?_insert_of_ne hne⟩

/-- What was written can be read. -/
lemma contentAt_of_writeContent {path : Text} {content : Content}
    (h : tree.writeContent path content = .ok tree') : tree'.contentAt path = .ok content := by
  have hlocate := (grown_writeContent h).locate (of_writeContent h).1
  obtain ⟨-, -, rfl⟩ := of_writeContent h
  exact (contentAt_eq_ok_iff _ path content).mpr ⟨_, hlocate, file?_insert_self content⟩

/-- **Writing a file makes no folders**: it is written into a folder that is there. -/
lemma hasFolder_of_writeContent {path place : Text} {content : Content}
    (h : tree.writeContent path content = .ok tree') (hplace : tree'.hasFolder place = true) :
    tree.hasFolder place = true := by
  obtain ⟨hlocate, hfolder, rfl⟩ := of_writeContent h
  obtain ⟨-, folder, name, -, -, houter, hname, hchild⟩ := exists_child_of_locate hlocate hfolder
  rw [hasFolder_iff] at hplace
  rcases hplace with hplace | hplace | hplace | ⟨inner, entry, hinner, hleads⟩
  · exact (hasFolder_iff tree _).mpr (.inl hplace)
  · exact (hasFolder_iff tree _).mpr (.inr (.inl hplace))
  · by_cases heq : place = placeOf path
    · subst heq
      rw [Dictionary.find?_insert_self] at hplace
      cases hplace
    · rw [Dictionary.find?_insert_of_ne _ heq] at hplace
      exact (hasFolder_iff tree _).mpr (.inr (.inr (.inl hplace)))
  · by_cases heq : inner = placeOf path
    · subst heq
      rw [hchild] at hleads
      exact hasFolder_of_isPrefix_child houter hname hleads
    · rw [Dictionary.find?_insert_of_ne _ heq] at hinner
      exact (hasFolder_iff tree _).mpr (.inr (.inr (.inr ⟨inner, entry, hinner, hleads⟩)))

/-! ### Making folders -/

/-- Making one folder lets a tree grow. -/
lemma grown_makeFolder {path : Text} (h : tree.makeFolder path = .ok tree') :
    Grown [] tree tree' := by
  obtain ⟨-, hnofile, rfl⟩ := of_makeFolder h
  have hfile : ∀ place, file? ⟨tree.listed.insert (placeOf path) .folder⟩ place =
      tree.file? place := by
    intro place
    by_cases heq : place = placeOf path
    · rw [heq, hnofile, file?, Dictionary.find?_insert_self]
    · exact file?_insert_of_ne heq
  refine ⟨fun place hplace => ⟨?_, hfile place⟩, fun place _ => hfile place⟩
  by_cases heq : place = placeOf path
  · subst heq
    exact (hasFolder_iff _ _).mpr (.inr (.inr (.inl (Dictionary.find?_insert_self _ _ _))))
  · exact hasFolder_insert hplace heq

/-- Everything that making a folder and those above it can do: nothing, make the folder, or make the
one above it first. -/
lemma of_makeFoldersWithin {bound : Nat} {path : Text}
    (h : makeFoldersWithin bound tree path = .ok tree') :
    tree' = tree ∨ tree.makeFolder path = .ok tree' ∨
      ∃ bound' outer between, bound = bound' + 1 ∧
        makeFoldersWithin bound' tree outer = .ok between ∧
        (between.makeFolder path = .ok tree' ∨ tree' = between) := by
  unfold makeFoldersWithin at h
  split at h
  · exact .inl (Except.ok.inj h).symm
  · split at h
    next made hmade =>
      obtain rfl := Except.ok.inj h
      exact .inr (.inl hmade)
    next =>
      split at h
      next =>
        obtain ⟨between, hbetween, hmade⟩ := Except.bind_eq_ok_iff.mp h
        refine .inr (.inr ⟨_, _, between, rfl, hbetween, ?_⟩)
        split at hmade
        next made hmake =>
          obtain rfl := Except.ok.inj hmade
          exact .inl hmake
        next =>
          split at hmade
          · exact .inr (Except.ok.inj hmade).symm
          · cases hmade
      next => cases h
    next =>
      split at h
      · exact .inl (Except.ok.inj h).symm
      · cases h

/-- Making a folder and those above it lets a tree grow. -/
lemma grown_makeFoldersWithin {bound : Nat} {path : Text}
    (h : makeFoldersWithin bound tree path = .ok tree') : Grown [] tree tree' := by
  induction bound generalizing tree' path with
  | zero =>
    rcases of_makeFoldersWithin h with rfl | hmade | ⟨_, _, _, hbound, _⟩
    · exact .refl [] _
    · exact grown_makeFolder hmade
    · cases hbound
  | succ bound ih =>
    rcases of_makeFoldersWithin h with rfl | hmade | ⟨bound', outer, between, hbound, habove, hmade⟩
    · exact .refl [] _
    · exact grown_makeFolder hmade
    · obtain rfl := Nat.succ.inj hbound
      rcases hmade with hmade | rfl
      · exact (ih habove).trans (grown_makeFolder hmade)
      · exact ih habove

/-- **Making folders lets a tree grow**, and no files come or go. -/
lemma grown_makeFolders {path : Text} (h : tree.makeFolders path = .ok tree') :
    Grown [] tree tree' := grown_makeFoldersWithin h

/-- A folder that is there need not be made. -/
lemma makeFolders_of_isFolder {path : Text} (h : path = [] ∨ tree.isFolder path = true) :
    tree.makeFolders path = .ok tree := by
  unfold makeFolders makeFoldersWithin
  by_cases hpath : path = []
  · rw [if_pos hpath]
  · have hfolder := h.resolve_left hpath
    have hmake : tree.makeFolder path = .error .alreadyExists := by
      unfold isFolder at hfolder
      cases hlocate : tree.locate path with
      | error failure => simp [hlocate] at hfolder
      | ok place =>
        rw [hlocate] at hfolder
        have hplace : tree.hasFolder place = true := hfolder
        simp [makeFolder, hlocate, hplace, bind, Except.bind, throw, throwThe, MonadExceptOf.throw]
    rw [if_neg hpath, hmake]
    simp [hfolder]

/-! ### Reading back -/

section Back

variable {written : List Text}

/-- Pieces that lead somewhere in a grown tree led there before, if no folders were made. -/
lemma Grown.follow_back (h : Grown written tree tree')
    (hback : ∀ place, tree'.hasFolder place = true → tree.hasFolder place = true)
    {place found : Text} {pieces : List Text}
    (hfound : tree'.follow place pieces = .ok found) : tree.follow place pieces = .ok found := by
  induction pieces generalizing place with
  | nil => exact hfound
  | cons piece pieces ih =>
    rw [FileTree.follow] at hfound ⊢
    split at hfound
    · cases hfound
    next hnofile =>
      split at hfound
      · cases hfound
      next hfolder' =>
        have hfolder := hback place (by simpa using hfolder')
        rw [← (h.folder place hfolder).2, if_neg hnofile, hfolder]
        exact ih hfound

/-- **What can be read in a grown tree could be read before**, if it was not written and no folders
were made. -/
lemma Grown.contentAt_back (h : Grown written tree tree')
    (hback : ∀ place, tree'.hasFolder place = true → tree.hasFolder place = true) {path : Text}
    {content : Content} (hpath : placeOf path ∉ written)
    (hcontent : tree'.contentAt path = .ok content) : tree.contentAt path = .ok content := by
  obtain ⟨place, hplace, hfile⟩ := (contentAt_eq_ok_iff tree' path content).mp hcontent
  rw [← eq_of_locate hplace] at hpath
  refine (contentAt_eq_ok_iff tree path content).mpr
    ⟨place, ?_, (h.file place hpath).symm.trans hfile⟩
  rw [FileTree.locate, locatePieces] at hplace ⊢
  split at hplace
  · cases hplace
  next hne =>
    rw [if_neg hne]
    exact h.follow_back hback hplace

end Back

end FileTree

end RuleSheet
