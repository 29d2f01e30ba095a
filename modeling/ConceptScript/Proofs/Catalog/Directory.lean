import ConceptScript.Catalog.Load
import ConceptScript.Proofs.Catalog.Validation
import ConceptScript.Proofs.Text.ByteOrder
import Mathlib.Data.List.Forall2

/-!
Contract: catalogs in directories.

The files of a directory that belong to a catalog have one order, that of the bytes of their names.
So it does not matter in which order the directory is enumerated. Types are checked when the lists
of all files are joined. So it does not matter either where the joined list is cut into files. Both
hold however the text of a file is read.

Owns which files belong to a catalog and their order, said without sorting, and what loading them
comes to.

Does not own what the text of a file lists, and which lists of types are catalogs.
-/

set_option autoImplicit false

namespace ConceptScript.Catalog

/-! ## Names of files -/

/-- Something, then a point and one of the two extensions. -/
def IsYamlName (name : String) : Prop :=
  ∃ stem, stem ≠ "" ∧ (name = stem ++ ".yaml" ∨ name = stem ++ ".yml")

theorem extension?_eq_some_iff
    {suffix : String}
    (noPoint : '.' ∉ suffix.toList) (name : String) :
    extension? name = some suffix ↔ ∃ stem, stem ≠ "" ∧ name = stem ++ ("." ++ suffix) := by
  have isSuffix : ∀ c ∈ suffix.toList.reverse, (decide (c ≠ '.')) = true := by
    intro c isMember
    rw [decide_eq_true_eq]
    rintro rfl
    exact noPoint (List.mem_reverse.1 isMember)
  constructor
  · intro isExtension
    unfold extension? at isExtension
    dsimp only at isExtension
    split at isExtension
    · next point last front isDropped =>
      obtain rfl := Option.some.inj isExtension
      have isPoint : point = '.' := by
        have notSkipped := List.head?_dropWhile_not (fun c => decide (c ≠ '.')) name.toList.reverse
        rw [isDropped] at notSkipped
        simpa using notSkipped
      have isName := List.takeWhile_append_dropWhile (p := fun c => decide (c ≠ '.'))
        (l := name.toList.reverse)
      rw [isDropped, isPoint] at isName
      refine ⟨String.ofList (last :: front).reverse, by simp, ?_⟩
      rw [← String.toList_inj, ← List.reverse_inj]
      refine isName.symm.trans ?_
      simp
    · cases isExtension
  · rintro ⟨stem, notEmpty, rfl⟩
    have isReversed : (stem ++ ("." ++ suffix)).toList.reverse =
        suffix.toList.reverse ++ '.' :: stem.toList.reverse := by
      simp
    have notNil : stem.toList.reverse ≠ [] := by simpa using notEmpty
    unfold extension?
    dsimp only
    rw [isReversed, List.dropWhile_append_of_pos isSuffix, List.takeWhile_append_of_pos isSuffix]
    cases isStem : stem.toList.reverse with
    | nil => exact absurd isStem notNil
    | cons last front => simp

theorem isSourceName_iff (name : String) : isSourceName name = true ↔ IsYamlName name := by
  rw [isSourceName, Bool.or_eq_true, decide_eq_true_eq, decide_eq_true_eq,
    extension?_eq_some_iff (by decide), extension?_eq_some_iff (by decide), IsYamlName,
    ← exists_or]
  simp only [← and_or_left]
  rfl

/-! ## Files of a directory -/

/-- The entries of a directory that are regular files, with their content. -/
def regularFiles (entries : List (String × Option FileContent)) : List (String × FileContent) :=
  entries.filterMap fun (name, content) => content.map fun content => (name, content)

theorem mem_regularFiles_iff
    {entries : List (String × Option FileContent)} {file : String × FileContent} :
    file ∈ regularFiles entries ↔ (file.1, some file.2) ∈ entries := by
  rw [regularFiles, List.mem_filterMap]
  constructor
  · rintro ⟨⟨name, content⟩, isEntry, isFile⟩
    obtain ⟨content, rfl, rfl⟩ := Option.map_eq_some_iff.1 isFile
    exact isEntry
  · intro isEntry
    exact ⟨_, isEntry, rfl⟩

/-- The files of a directory that belong to a catalog, by the bytes of their names. -/
structure IsListing
    (entries : List (String × Option FileContent)) (files : List (String × FileContent)) :
    Prop where
  mem_iff : ∀ file, file ∈ files ↔ (file.1, some file.2) ∈ entries ∧ IsYamlName file.1
  ascending : files.Pairwise fun left right => Text.bytes left.1 < Text.bytes right.1

theorem isListing_sourceFiles
    {entries : List (String × Option FileContent)}
    (distinct : ((regularFiles entries).map Prod.fst).Nodup) :
    IsListing entries (sourceFiles entries) := by
  have isPerm : (sourceFiles entries).Perm
      ((regularFiles entries).filter fun file => isSourceName file.1) :=
    List.mergeSort_perm _ _
  refine ⟨?_, ?_⟩
  · intro file
    rw [isPerm.mem_iff, List.mem_filter, mem_regularFiles_iff, isSourceName_iff]
  · have sorted : (sourceFiles entries).Pairwise fun left right =>
        decide (left.1 ≤ right.1) = true := by
      apply List.pairwise_mergeSort
      · intro first second third firstLe secondLe
        simp only [decide_eq_true_eq] at firstLe secondLe ⊢
        exact String.le_trans firstLe secondLe
      · intro first second
        rw [Bool.or_eq_true, decide_eq_true_eq, decide_eq_true_eq]
        exact String.le_total _ _
    have namesDiffer : (sourceFiles entries).Pairwise fun left right => left.1 ≠ right.1 := by
      refine isPerm.symm.pairwise ?_ Ne.symm
      exact (List.pairwise_map.1 distinct).sublist List.filter_sublist
    refine sorted.imp₂ ?_ namesDiffer
    intro left right nameLe namesDiffer
    rw [Text.bytes_lt_iff]
    exact lt_of_le_of_ne (of_decide_eq_true nameLe) namesDiffer

namespace IsListing

variable {entries listed : List (String × Option FileContent)}
  {files others : List (String × FileContent)}

theorem nodup (listing : IsListing entries files) : files.Nodup := by
  refine listing.ascending.imp ?_
  rintro left right isLess rfl
  exact List.lt_irrefl _ isLess

theorem unique
    (listing : IsListing entries files)
    (other : IsListing entries others) :
    files = others := by
  have sameMembers : ∀ file, file ∈ files ↔ file ∈ others := by
    intro file
    rw [listing.mem_iff, other.mem_iff]
  refine List.Perm.eq_of_pairwise ?_ listing.ascending other.ascending
    ((List.perm_ext_iff_of_nodup listing.nodup other.nodup).2 sameMembers)
  intro left right _ _ isLess isGreater
  exact absurd isGreater (List.lt_asymm isLess)

theorem of_perm
    (listing : IsListing entries files)
    (isPerm : listed.Perm entries) :
    IsListing listed files where
  mem_iff file := by rw [listing.mem_iff, isPerm.mem_iff]
  ascending := listing.ascending

end IsListing

theorem nodup_of_perm
    {entries listed : List (String × Option FileContent)}
    (distinct : ((regularFiles entries).map Prod.fst).Nodup)
    (isPerm : listed.Perm entries) :
    ((regularFiles listed).map Prod.fst).Nodup :=
  ((isPerm.filterMap _).map Prod.fst).nodup_iff.2 distinct

/-! ## Reading files -/

variable {read : TypesReader}

/-- The content is a text that lists the types. -/
def Lists (read : TypesReader) (content : FileContent) (types : List ConceptType) : Prop :=
  ∃ bytes source, content = .ok bytes ∧ String.fromUTF8? bytes = some source ∧
    read source = some types

/-- Why a file does not list types: it cannot be read, is no text, or is a text of another form. -/
inductive Fails (read : TypesReader) (path : String) (content : FileContent) :
    LoadFault → Prop where
  | unreadable {cause : ReadFault}
      (isFault : content = .error cause) :
      Fails read path content (.unreadable path cause)
  | notText {bytes : ByteArray}
      (isContent : content = .ok bytes)
      (notText : String.fromUTF8? bytes = none) :
      Fails read path content (.unreadable path .notText)
  | malformed {bytes : ByteArray} {source : String}
      (isContent : content = .ok bytes)
      (isText : String.fromUTF8? bytes = some source)
      (noTypes : read source = none) :
      Fails read path content (.malformed path)

theorem readFile_of_lists
    {content : FileContent} {types : List ConceptType}
    (lists : Lists read content types) (path : String) :
    readFile read path content = .ok types := by
  obtain ⟨bytes, source, rfl, isText, isTypes⟩ := lists
  simp only [readFile, isText, isTypes]

theorem readFile_of_fails
    {path : String} {content : FileContent} {fault : LoadFault}
    (fails : Fails read path content fault) :
    readFile read path content = .error fault := by
  cases fails with
  | unreadable isFault => simp only [readFile, isFault]
  | notText isContent notText => simp only [readFile, isContent, notText]
  | malformed isContent isText noTypes => simp only [readFile, isContent, isText, noTypes]

theorem lists_or_fails (read : TypesReader) (path : String) (content : FileContent) :
    (∃ types, Lists read content types) ∨ ∃ fault, Fails read path content fault := by
  cases content with
  | error cause => exact .inr ⟨_, .unreadable rfl⟩
  | ok bytes =>
    cases isText : String.fromUTF8? bytes with
    | none => exact .inr ⟨_, .notText rfl isText⟩
    | some source =>
      cases isTypes : read source with
      | none => exact .inr ⟨_, .malformed rfl isText isTypes⟩
      | some types => exact .inl ⟨types, bytes, source, rfl, isText, isTypes⟩

/-! ## Joining the lists -/

/-- The types of all files in their order, or the fault of the first file that has one. -/
def joinedTypes (read : TypesReader) (path : String) :
    List (String × FileContent) → Except LoadFault (List ConceptType)
  | [] => .ok []
  | (name, content) :: later =>
    (readFile read (pathIn path name) content).bind fun types =>
      (joinedTypes read path later).map (types ++ ·)

theorem joinedTypes_eq_mapM
    (read : TypesReader) (path : String) (files : List (String × FileContent)) :
    joinedTypes read path files =
      ((files.map fun file => (pathIn path file.1, file.2)).mapM fun file =>
        readFile read file.1 file.2).map List.flatten := by
  induction files with
  | nil => rfl
  | cons file later inductionHypothesis =>
    rw [joinedTypes, inductionHypothesis, List.map_cons, List.mapM_cons]
    cases readFile read (pathIn path file.1) file.2 with
    | error fault => rfl
    | ok types =>
      dsimp only [bind, Except.bind]
      cases (later.map fun file => (pathIn path file.1, file.2)).mapM fun file =>
        readFile read file.1 file.2 <;> rfl

theorem loadWith_directory_eq
    (read : TypesReader) (path : String) (entries : List (String × Option FileContent)) :
    loadWith read path (.directory entries) =
      (joinedTypes read path (sourceFiles entries)).bind fun types =>
        (ofTypes types).mapError (LoadFault.invalid path) := by
  rw [joinedTypes_eq_mapM, loadWith, filesAt]
  dsimp only
  cases ((sourceFiles entries).map fun file => (pathIn path file.1, file.2)).mapM fun file =>
      readFile read file.1 file.2 with
  | error fault => rfl
  | ok lists =>
    dsimp only [bind, Except.bind, Except.map]
    cases ofTypes lists.flatten <;> rfl

theorem joinedTypes_of_lists
    {name : String} {content : FileContent} {types : List ConceptType}
    (lists : Lists read content types) (path : String) (later : List (String × FileContent)) :
    joinedTypes read path ((name, content) :: later) =
      (joinedTypes read path later).map (types ++ ·) := by
  rw [joinedTypes, readFile_of_lists lists]
  rfl

theorem joinedTypes_of_fails
    {path name : String} {content : FileContent} {fault : LoadFault}
    (fails : Fails read (pathIn path name) content fault) (later : List (String × FileContent)) :
    joinedTypes read path ((name, content) :: later) = .error fault := by
  rw [joinedTypes, readFile_of_fails fails]
  rfl

/-- What loading files of a directory comes to: the fault of the first file that has one, or else
the catalog of all their types in order, or the defect of these. -/
inductive Outcome (read : TypesReader) (path : String) (files : List (String × FileContent)) :
    Except LoadFault Catalog → Prop where
  | fails {front back : List (String × FileContent)} {name : String} {content : FileContent}
      {fault : LoadFault}
      (isFiles : files = front ++ (name, content) :: back)
      (frontLists : ∀ file ∈ front, ∃ types, Lists read file.2 types)
      (fails : Fails read (pathIn path name) content fault) :
      Outcome read path files (.error fault)
  | joins {lists : List (List ConceptType)}
      (allList : List.Forall₂ (fun file types => Lists read file.2 types) files lists) :
      Outcome read path files ((ofTypes lists.flatten).mapError (LoadFault.invalid path))

theorem joinedTypes_of_allList
    {files : List (String × FileContent)} {lists : List (List ConceptType)}
    (allList : List.Forall₂ (fun file types => Lists read file.2 types) files lists) (path : String) :
    joinedTypes read path files = .ok lists.flatten := by
  induction allList with
  | nil => rfl
  | cons fileLists _ inductionHypothesis =>
    rw [joinedTypes_of_lists fileLists, inductionHypothesis]
    rfl

theorem joinedTypes_of_first_fault
    {path name : String} {front : List (String × FileContent)} {content : FileContent}
    {fault : LoadFault}
    (frontLists : ∀ file ∈ front, ∃ types, Lists read file.2 types)
    (fails : Fails read (pathIn path name) content fault) (back : List (String × FileContent)) :
    joinedTypes read path (front ++ (name, content) :: back) = .error fault := by
  induction front with
  | nil => exact joinedTypes_of_fails fails back
  | cons file front inductionHypothesis =>
    obtain ⟨⟨types, fileLists⟩, laterLists⟩ := List.forall_mem_cons.1 frontLists
    rw [List.cons_append, joinedTypes_of_lists fileLists, inductionHypothesis laterLists]
    rfl

/-- Either all files list types, or there is a first one that does not. -/
theorem allList_or_first_fault
    (read : TypesReader) (path : String) (files : List (String × FileContent)) :
    (∃ lists, List.Forall₂ (fun file types => Lists read file.2 types) files lists) ∨
      ∃ front name content back fault, files = front ++ (name, content) :: back ∧
        (∀ file ∈ front, ∃ types, Lists read file.2 types) ∧
        Fails read (pathIn path name) content fault := by
  induction files with
  | nil => exact .inl ⟨[], .nil⟩
  | cons file later inductionHypothesis =>
    obtain ⟨name, content⟩ := file
    rcases lists_or_fails read (pathIn path name) content with ⟨types, fileLists⟩ | ⟨fault, fails⟩
    · rcases inductionHypothesis with
        ⟨lists, allList⟩ | ⟨front, other, otherContent, back, fault, rfl, frontLists, fails⟩
      · exact .inl ⟨types :: lists, .cons fileLists allList⟩
      · refine .inr ⟨(name, content) :: front, other, otherContent, back, fault, rfl, ?_, fails⟩
        exact List.forall_mem_cons.2 ⟨⟨types, fileLists⟩, frontLists⟩
    · exact .inr ⟨[], name, content, later, fault, rfl, List.forall_mem_nil _, fails⟩

theorem loadWith_directory_eq_iff_outcome
    {entries : List (String × Option FileContent)} {files : List (String × FileContent)}
    (distinct : ((regularFiles entries).map Prod.fst).Nodup)
    (listing : IsListing entries files) (path : String) (result : Except LoadFault Catalog) :
    loadWith read path (.directory entries) = result ↔ Outcome read path files result := by
  obtain rfl := (isListing_sourceFiles distinct).unique listing
  rw [loadWith_directory_eq]
  constructor
  · rintro rfl
    rcases allList_or_first_fault read path (sourceFiles entries) with
      ⟨lists, allList⟩ | ⟨front, name, content, back, fault, isFiles, frontLists, fails⟩
    · rw [joinedTypes_of_allList allList]
      exact .joins allList
    · have isFault := joinedTypes_of_first_fault frontLists fails back
      rw [← isFiles] at isFault
      rw [isFault]
      exact .fails isFiles frontLists fails
  · intro outcome
    cases outcome with
    | fails isFiles frontLists fails =>
      rw [isFiles, joinedTypes_of_first_fault frontLists fails]
      rfl
    | joins allList =>
      rw [joinedTypes_of_allList allList]
      rfl

/-! ## Splitting a file -/

/-- Of two names the second comes behind the first, and no other file that belongs to a catalog
comes between them or has one of the names. -/
structure ComesNext (others : List (String × Option FileContent)) (name added : String) :
    Prop where
  isBehind : Text.bytes name < Text.bytes added
  noneBetween : ∀ other content, (other, some content) ∈ others → IsYamlName other →
    Text.bytes other < Text.bytes name ∨ Text.bytes added < Text.bytes other

/-- The end of what a file lists is moved to a new file, whose name comes next. -/
inductive SplitsFile (read : TypesReader) (entries split : List (String × Option FileContent)) :
    Prop where
  | mk {name added : String} {whole front back : FileContent} {first second : List ConceptType}
      {others : List (String × Option FileContent)}
      (isEntries : entries.Perm ((name, some whole) :: others))
      (isSplit : split.Perm ((name, some front) :: (added, some back) :: others))
      (isYaml : IsYamlName name)
      (addedYaml : IsYamlName added)
      (comesNext : ComesNext others name added)
      (wholeLists : Lists read whole (first ++ second))
      (frontLists : Lists read front first)
      (backLists : Lists read back second) :
      SplitsFile read entries split

theorem joinedTypes_of_split
    {name added : String} {whole front back : FileContent} {first second : List ConceptType}
    (wholeLists : Lists read whole (first ++ second))
    (frontLists : Lists read front first)
    (backLists : Lists read back second)
    (path : String) (earlier later : List (String × FileContent)) :
    joinedTypes read path (earlier ++ (name, front) :: (added, back) :: later) =
      joinedTypes read path (earlier ++ (name, whole) :: later) := by
  induction earlier with
  | nil =>
    rw [List.nil_append, List.nil_append, joinedTypes_of_lists wholeLists,
      joinedTypes_of_lists frontLists, joinedTypes_of_lists backLists]
    cases joinedTypes read path later with
    | error fault => rfl
    | ok types => exact congrArg Except.ok (List.append_assoc first second types).symm
  | cons file earlier inductionHypothesis =>
    rw [List.cons_append, List.cons_append, joinedTypes, joinedTypes, inductionHypothesis]

section Split

variable {name added : String} {whole : FileContent} {others : List (String × Option FileContent)}
  {earlier later : List (String × FileContent)}

theorem ComesNext.not_mem_of_name
    (comesNext : ComesNext others name added)
    (isYaml : IsYamlName name) (content : FileContent) :
    (name, some content) ∉ others := by
  intro isOther
  rcases comesNext.noneBetween name content isOther isYaml with isBelow | isAbove
  · exact List.lt_irrefl _ isBelow
  · exact List.lt_asymm comesNext.isBehind isAbove

theorem ComesNext.not_mem_of_added
    (comesNext : ComesNext others name added)
    (addedYaml : IsYamlName added) (content : FileContent) :
    (added, some content) ∉ others := by
  intro isOther
  rcases comesNext.noneBetween added content isOther addedYaml with isBelow | isAbove
  · exact List.lt_asymm comesNext.isBehind isBelow
  · exact List.lt_irrefl _ isAbove

theorem IsListing.below_and_above
    (listing : IsListing ((name, some whole) :: others) (earlier ++ (name, whole) :: later)) :
    (∀ file ∈ earlier, Text.bytes file.1 < Text.bytes name) ∧
      ∀ file ∈ later, Text.bytes name < Text.bytes file.1 := by
  obtain ⟨-, fileAscending, earlierBelow⟩ := List.pairwise_append.1 listing.ascending
  refine ⟨?_, (List.pairwise_cons.1 fileAscending).1⟩
  intro file isEarlier
  exact earlierBelow file isEarlier _ List.mem_cons_self

/-- What stands around a file in a listing are the other files that belong to the catalog. -/
theorem IsListing.mem_around_iff
    (listing : IsListing ((name, some whole) :: others) (earlier ++ (name, whole) :: later))
    (notOther : (name, some whole) ∉ others) (file : String × FileContent) :
    file ∈ earlier ∨ file ∈ later ↔ (file.1, some file.2) ∈ others ∧ IsYamlName file.1 := by
  obtain ⟨earlierBelow, laterAbove⟩ := listing.below_and_above
  have isListed := listing.mem_iff file
  rw [List.mem_append, List.mem_cons, List.mem_cons] at isListed
  constructor
  · intro isMember
    have nameDiffers : file.1 ≠ name := by
      intro isName
      rcases isMember with isEarlier | isLater
      · exact List.lt_irrefl _ (isName ▸ earlierBelow file isEarlier)
      · exact List.lt_irrefl _ (isName ▸ laterAbove file isLater)
    obtain ⟨isSame | isOther, fileYaml⟩ := isListed.1 (isMember.imp_right .inr)
    · exact absurd (Prod.mk.inj isSame).1 nameDiffers
    · exact ⟨isOther, fileYaml⟩
  · rintro ⟨isOther, fileYaml⟩
    rcases isListed.2 ⟨.inr isOther, fileYaml⟩ with isEarlier | rfl | isLater
    · exact .inl isEarlier
    · exact absurd isOther notOther
    · exact .inr isLater

/-- The new file is listed right behind the file it was split from. -/
theorem IsListing.split
    (listing : IsListing ((name, some whole) :: others) (earlier ++ (name, whole) :: later))
    (isYaml : IsYamlName name)
    (addedYaml : IsYamlName added)
    (comesNext : ComesNext others name added) (front back : FileContent) :
    IsListing ((name, some front) :: (added, some back) :: others)
      (earlier ++ (name, front) :: (added, back) :: later) := by
  have isAround := listing.mem_around_iff (comesNext.not_mem_of_name isYaml whole)
  obtain ⟨earlierBelow, laterAbove⟩ := listing.below_and_above
  refine ⟨?_, ?_⟩
  · rintro ⟨fileName, content⟩
    have isOther := isAround (fileName, content)
    rw [List.mem_append, List.mem_cons, List.mem_cons, List.mem_cons, List.mem_cons]
    constructor
    · rintro (isEarlier | isFront | isBack | isLater)
      · exact (isOther.1 (.inl isEarlier)).imp_left fun isMember => .inr (.inr isMember)
      · obtain ⟨rfl, rfl⟩ := Prod.mk.inj isFront
        exact ⟨.inl rfl, isYaml⟩
      · obtain ⟨rfl, rfl⟩ := Prod.mk.inj isBack
        exact ⟨.inr (.inl rfl), addedYaml⟩
      · exact (isOther.1 (.inr isLater)).imp_left fun isMember => .inr (.inr isMember)
    · rintro ⟨isFront | isBack | isMember, fileYaml⟩
      · cases isFront
        exact .inr (.inl rfl)
      · cases isBack
        exact .inr (.inr (.inl rfl))
      · exact (isOther.2 ⟨isMember, fileYaml⟩).imp_right fun isLater => .inr (.inr isLater)
  · obtain ⟨earlierAscending, fileAscending, earlierBelowAll⟩ :=
      List.pairwise_append.1 listing.ascending
    have laterAboveAdded : ∀ file ∈ later, Text.bytes added < Text.bytes file.1 := by
      intro file isLater
      obtain ⟨isOther, fileYaml⟩ := (isAround file).1 (.inr isLater)
      rcases comesNext.noneBetween file.1 file.2 isOther fileYaml with isBelow | isAbove
      · exact absurd isBelow (List.lt_asymm (laterAbove file isLater))
      · exact isAbove
    refine List.pairwise_append.2 ⟨earlierAscending, ?_, ?_⟩
    · refine List.pairwise_cons.2 ⟨List.forall_mem_cons.2 ⟨comesNext.isBehind, laterAbove⟩, ?_⟩
      exact List.pairwise_cons.2 ⟨laterAboveAdded, (List.pairwise_cons.1 fileAscending).2⟩
    · intro file isEarlier
      have isBelow := earlierBelow file isEarlier
      refine List.forall_mem_cons.2 ⟨isBelow, List.forall_mem_cons.2 ⟨?_, ?_⟩⟩
      · exact List.lt_trans isBelow comesNext.isBehind
      · intro other isLater
        exact earlierBelowAll file isEarlier other (List.mem_cons_of_mem _ isLater)

/-- A split leaves the names of the files distinct. -/
theorem ComesNext.nodup_split
    (comesNext : ComesNext others name added)
    (addedYaml : IsYamlName added)
    (distinct : ((regularFiles ((name, some whole) :: others)).map Prod.fst).Nodup)
    (front back : FileContent) :
    ((regularFiles ((name, some front) :: (added, some back) :: others)).map Prod.fst).Nodup := by
  obtain ⟨nameFresh, othersDistinct⟩ := List.nodup_cons.1 distinct
  have addedFresh : added ∉ (regularFiles others).map Prod.fst := by
    intro isName
    obtain ⟨⟨_, content⟩, isFile, rfl⟩ := List.mem_map.1 isName
    exact comesNext.not_mem_of_added addedYaml content (mem_regularFiles_iff.1 isFile)
  refine List.nodup_cons.2 ⟨?_, List.nodup_cons.2 ⟨addedFresh, othersDistinct⟩⟩
  intro isName
  rcases List.mem_cons.1 isName with isAdded | isOther
  · have isBehind := comesNext.isBehind
    rw [show name = added from isAdded] at isBehind
    exact List.lt_irrefl _ isBehind
  · exact nameFresh isOther

end Split

theorem loadWith_directory_of_split
    {entries split : List (String × Option FileContent)}
    (distinct : ((regularFiles entries).map Prod.fst).Nodup)
    (splits : SplitsFile read entries split) (path : String) :
    loadWith read path (.directory split) = loadWith read path (.directory entries) := by
  obtain ⟨isEntries, isSplit, isYaml, addedYaml, comesNext, wholeLists, frontLists, backLists⟩ :=
    splits
  have splitDistinct := nodup_of_perm
    (comesNext.nodup_split addedYaml (nodup_of_perm distinct isEntries.symm) _ _) isSplit
  have listing := (isListing_sourceFiles distinct).of_perm isEntries.symm
  obtain ⟨earlier, later, isFiles⟩ := List.append_of_mem
    ((listing.mem_iff (_, _)).2 ⟨List.mem_cons_self, isYaml⟩)
  rw [isFiles] at listing
  have splitListing := (listing.split isYaml addedYaml comesNext _ _).of_perm isSplit
  rw [loadWith_directory_eq, loadWith_directory_eq, isFiles,
    (isListing_sourceFiles splitDistinct).unique splitListing,
    joinedTypes_of_split wholeLists frontLists backLists]

/-- However texts are read, a directory comes to the same in whatever order it is enumerated: to the
fault of the first file in the order of bytes, or else to what all types together come to. Nor does
it matter whether a list of types stands in one file or is split in two. -/
theorem load_directory_independent
    (read : TypesReader) {entries : List (String × Option FileContent)}
    (distinct : ((regularFiles entries).map Prod.fst).Nodup) (path : String) :
    (∀ listed, listed.Perm entries →
        loadWith read path (.directory listed) = loadWith read path (.directory entries)) ∧
      (∃ files, IsListing entries files ∧
        ∀ result,
          loadWith read path (.directory entries) = result ↔ Outcome read path files result) ∧
      ∀ split, SplitsFile read entries split →
        loadWith read path (.directory split) = loadWith read path (.directory entries) := by
  have listing := isListing_sourceFiles distinct
  refine ⟨?_, ⟨_, listing, loadWith_directory_eq_iff_outcome distinct listing path⟩, ?_⟩
  · intro listed isPerm
    have listedDistinct := nodup_of_perm distinct isPerm
    rw [loadWith_directory_eq, loadWith_directory_eq,
      (isListing_sourceFiles listedDistinct).unique (listing.of_perm isPerm)]
  · intro split splits
    exact loadWith_directory_of_split distinct splits path

def textFile (text : String) : FileContent :=
  .ok text.toUTF8

theorem lists_textFile
    {text : String} {types : List ConceptType}
    (isTypes : readTypes? text = some types) :
    Lists readTypes? (textFile text) types :=
  ⟨text.toUTF8, text, rfl, dif_pos text.isValidUTF8, isTypes⟩

/-- Lists a type in front of its parent. -/
def childAndParent : FileContent :=
  textFile "concepts:\n- name: A\n  parents: [B]\n- name: B\n"

def childAlone : FileContent :=
  textFile "concepts:\n- name: A\n  parents: [B]\n"

def parentAlone : FileContent :=
  textFile "concepts:\n- name: B\n"

def unrelated : FileContent :=
  textFile "concepts:\n- name: C\n"

/-- A file of the catalog, a directory with the name of one, and a file with another extension. -/
def otherEntries : List (String × Option FileContent) :=
  [("20.yml", some unrelated), ("old.yaml", none), ("notes.txt", some (textFile "]"))]

/-- The first file is enumerated last. -/
def wholeEntries : List (String × Option FileContent) :=
  otherEntries ++ [("10.yaml", some childAndParent)]

/-- The parent has a file of its own, which is enumerated in front of that of the child. -/
def splitEntries : List (String × Option FileContent) :=
  ("11.yml", some parentAlone) :: ("10.yaml", some childAlone) :: otherEntries

theorem comesNext_otherEntries : ComesNext otherEntries "10.yaml" "11.yml" where
  isBehind := (Text.bytes_lt_iff _ _).2 (by decide)
  noneBetween other content isOther _ := by
    simp only [otherEntries, List.mem_cons, Prod.mk.injEq, List.not_mem_nil, or_false] at isOther
    rcases isOther with ⟨rfl, -⟩ | ⟨-, isNone⟩ | ⟨rfl, -⟩
    · exact .inr ((Text.bytes_lt_iff _ _).2 (by decide))
    · cases isNone
    · exact .inr ((Text.bytes_lt_iff _ _).2 (by decide))

theorem lists_childAndParent :
    Lists readTypes? childAndParent ([{ name := "A", parents := ["B"] }] ++ [{ name := "B" }]) :=
  lists_textFile (by decide +kernel)

theorem splitsFile_wholeEntries : SplitsFile readTypes? wholeEntries splitEntries := by
  have childLists : Lists readTypes? childAlone [{ name := "A", parents := ["B"] }] :=
    lists_textFile (by decide +kernel)
  have parentLists : Lists readTypes? parentAlone [{ name := "B" }] :=
    lists_textFile (by decide +kernel)
  exact .mk (List.perm_append_singleton _ _) (.swap _ _ _)
    ((isSourceName_iff "10.yaml").1 (by decide)) ((isSourceName_iff "11.yml").1 (by decide))
    comesNext_otherEntries lists_childAndParent childLists parentLists

theorem isListing_wholeEntries :
    IsListing wholeEntries [("10.yaml", childAndParent), ("20.yml", unrelated)] where
  mem_iff := by
    rintro ⟨name, content⟩
    simp only [wholeEntries, otherEntries, List.mem_append, List.mem_cons, Prod.mk.injEq,
      Option.some.injEq, reduceCtorEq, List.not_mem_nil, and_false, or_false, false_or]
    constructor
    · rintro (⟨rfl, rfl⟩ | ⟨rfl, rfl⟩)
      · exact ⟨.inr ⟨rfl, rfl⟩, (isSourceName_iff "10.yaml").1 (by decide)⟩
      · exact ⟨.inl (.inl ⟨rfl, rfl⟩), (isSourceName_iff "20.yml").1 (by decide)⟩
    · rintro ⟨(isLater | ⟨rfl, -⟩) | isFirst, isYaml⟩
      · exact .inr isLater
      · exact absurd ((isSourceName_iff "notes.txt").2 isYaml) (by decide)
      · exact .inl isFirst
  ascending := List.pairwise_pair.2 ((Text.bytes_lt_iff _ _).2 (by decide))

/-- The types of the three files in the order of their names. -/
def threeTypes : Catalog where
  types := [{ name := "A", parents := ["B"] }, { name := "B" }, { name := "C" }]
  sound := by decide

theorem load_splitEntries :
    ((regularFiles wholeEntries).map Prod.fst).Nodup ∧
      SplitsFile readTypes? wholeEntries splitEntries ∧
      load "catalog" (.directory wholeEntries) = .ok threeTypes ∧
      load "catalog" (.directory splitEntries) = .ok threeTypes := by
  have distinct : ((regularFiles wholeEntries).map Prod.fst).Nodup := by decide
  obtain ⟨-, ⟨files, listing, outcome⟩, ofSplit⟩ :=
    load_directory_independent readTypes? distinct "catalog"
  obtain rfl := listing.unique isListing_wholeEntries
  let lists : List (List ConceptType) :=
    [[{ name := "A", parents := ["B"] }, { name := "B" }], [{ name := "C" }]]
  have laterLists : Lists readTypes? unrelated [{ name := "C" }] := lists_textFile (by decide +kernel)
  have allList : List.Forall₂
      (fun (file : String × FileContent) types => Lists readTypes? file.2 types)
      [("10.yaml", childAndParent), ("20.yml", unrelated)] lists :=
    .cons lists_childAndParent (.cons laterLists .nil)
  have joins : Outcome readTypes? "catalog" _ _ := .joins allList
  have isCatalog : ofTypes lists.flatten = .ok threeTypes := (ofTypes_eq_ok_iff _ _).2 rfl
  rw [isCatalog] at joins
  have isLoaded := (outcome (.ok threeTypes)).2 joins
  exact ⟨distinct, splitsFile_wholeEntries, isLoaded,
    (ofSplit splitEntries splitsFile_wholeEntries).trans isLoaded⟩

end ConceptScript.Catalog
