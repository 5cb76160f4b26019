/-
Asking for fonts over a whole run, with other files at every question. A question
that is answered makes the font it gives usable, and nothing else changes which
fonts can be used (`isKnown_after_iff`), so a font that was given is given again ever
after. One that cannot be used yet is given by its name just if the first file of it
in the font folders is a font, and every folder before could be looked into
(`byName_ok_iff`). A folder whose path is too long could not, and hides the fonts of
all folders after it.
-/
import PageTemplate.Proofs.Session.Outcome

namespace PageTemplate

/-! ## Paths of one part -/

namespace Path

theorem splitAtSlashes_of_not_mem {cs : List Char} (h : '/' ∉ cs) : splitAtSlashes cs = [cs] := by
  induction cs with
  | nil => rfl
  | cons c cs ih =>
    rw [List.mem_cons, not_or] at h
    rw [splitAtSlashes, if_neg (Ne.symm h.1), ih h.2]

/-- A text of more than one character and no slash is a path of one part. -/
theorem ofText_of_no_slash {part : String} (hslash : '/' ∉ part.toList) (hlong : 1 < part.toList.length) :
    ofText part = ⟨"", [part]⟩ := by
  have hpart : part.toList ≠ [] ∧ part.toList ≠ ['.'] := by
    constructor <;> intro h <;> simp [h] at hlong
  have hroot : part.toList.takeWhile (· == '/') = [] := by
    cases hcs : part.toList with
    | nil => rfl
    | cons c cs =>
      have hc : ¬ c = '/' := fun h => hslash (by simp [hcs, h])
      simp [hc]
  simp [ofText, splitAtSlashes_of_not_mem hslash, rootOf, hroot, hpart]

end Path

/-! ## Looking at a path -/

namespace FileTree

variable {t : FileTree} {p : Path}

/-- A file can be read only where a file is seen. -/
theorem look_of_read {bytes : List UInt8} (h : t.read p = .ok bytes) :
    ∃ locks, t.look p = .ok (some (.file bytes locks)) := by
  unfold read at h
  split at h
  · cases h
  · rename_i place hfind
    split at h
    · cases h
    · rename_i content locks hentry
      split at h
      · cases h
      · cases h
        exact ⟨locks, by rw [look, hfind]; simp only [hentry]⟩

/-- A path cannot be looked at if its first part is too long and the folder that it starts in can be passed. -/
theorem look_of_long_first {part last : String} {locks : Locks}
    (hfolder : t.entryOf t.workingFolder = .folder locks) (hpassing : locks.passing = none)
    (hlong : 255 < part.utf8ByteSize) (hpart : '\x00' ∉ part.toList) (hlast : '\x00' ∉ last.toList) :
    t.look ⟨"", [part, last]⟩ = .error .nameTooLong := by
  have htext : Path.text ⟨"", [part, last]⟩ = part ++ "/" ++ last := rfl
  have hnul : (Path.text ⟨"", [part, last]⟩).toList.contains '\x00' = false := by
    simp [htext, hpart, hlast]
  have hstart : t.start ⟨"", [part, last]⟩ = t.workingFolder := rfl
  have hfind : t.find ⟨"", [part, last]⟩ = .error .nameTooLong := by
    unfold find
    rw [if_neg (by rw [hnul]; decide)]
    split
    · rfl
    · simp [hstart, walk, step, hfolder, hpassing, hlong]
  rw [look, hfind]
  rfl

end FileTree

namespace Font

variable {files : FileTree} {settings : Settings} {shelf : Shelf} {request : Request} {found : Found}
  {name text folder : String} {folders : List String} {bytes : List UInt8}

/-! ## The files of a font -/

/-- Whether a folder has a file of a font. -/
def hasFile (files : FileTree) (settings : Settings) (name folder : String) : Bool :=
  match files.look (fileIn settings name folder) with
  | .ok (some (.file ..)) => true
  | _ => false

/-- The first folder with a file of a font. -/
def firstFolder? (files : FileTree) (settings : Settings) (name : String) (folders : List String) : Option String :=
  folders.find? (hasFile files settings name)

/-- The folders before it. -/
def foldersBefore (files : FileTree) (settings : Settings) (name : String) (folders : List String) : List String :=
  folders.takeWhile fun folder => !hasFile files settings name folder

/-- Whether a folder cannot even be looked into for the file of a font. -/
def Unsearchable (files : FileTree) (settings : Settings) (name folder : String) : Prop :=
  ∃ fault, files.look (fileIn settings name folder) = .error fault

theorem first_cons_of_true (folders : List String) (h : hasFile files settings name folder = true) :
    firstFolder? files settings name (folder :: folders) = some folder ∧
      foldersBefore files settings name (folder :: folders) = [] := by
  simp [firstFolder?, foldersBefore, h]

theorem first_cons_of_false (folders : List String) (h : hasFile files settings name folder = false) :
    firstFolder? files settings name (folder :: folders) = firstFolder? files settings name folders ∧
      foldersBefore files settings name (folder :: folders) = folder :: foldersBefore files settings name folders := by
  simp [firstFolder?, foldersBefore, h]

theorem hasFile_of_look_error {fault : FileFault} (h : files.look (fileIn settings name folder) = .error fault) :
    hasFile files settings name folder = false := by
  rw [hasFile, h]

/-! ## One question -/

theorem isKnown_append (shelf : Shelf) (name other : String) :
    isKnown (shelf ++ [name]) other = true ↔ isKnown shelf other = true ∨ other = name := by
  simp [isKnown, or_assoc]

section Asking

variable [Platform]

/-- A font that is registered can be used then, and no other one that could not be used before. -/
theorem register_ok {source : String} (h : register shelf name source bytes = .ok found) :
    found.name = name ∧ ∀ other, isKnown found.shelf other = true ↔ isKnown shelf other = true ∨ other = name := by
  unfold register at h
  split at h
  · cases h
    refine ⟨rfl, fun other => ?_⟩
    simp only
    split
    · rename_i hshelf
      have hname : isKnown shelf name = true := Bool.or_eq_true_iff.2 (.inr hshelf)
      exact ⟨.inl, fun h => h.elim id fun h => h ▸ hname⟩
    · exact isKnown_append shelf name other
  · cases h

theorem searchFolders_ok (h : searchFolders files settings shelf name folders = .ok found) :
    found.name = name ∧ ∀ other, isKnown found.shelf other = true ↔ isKnown shelf other = true ∨ other = name := by
  induction folders with
  | nil => cases h
  | cons folder folders ih =>
    unfold searchFolders at h
    simp only at h
    split at h
    · cases h
    · split at h
      · cases h
      · exact register_ok h
    · exact ih h

theorem byName_of_isKnown (files : FileTree) (settings : Settings) (h : isKnown shelf name = true) :
    byName files settings shelf name = .ok { name := name, shelf := shelf } := if_pos h

theorem byName_of_not_isKnown (files : FileTree) (settings : Settings) (h : isKnown shelf name = false) :
    byName files settings shelf name = searchFolders files settings shelf name settings.fontFolders :=
  if_neg (by simp [h])

/-- The font that a question is answered with can be used then, and no other one that could not be used
before. -/
theorem ask_ok (h : ask files settings shelf request text = .ok found) (other : String) :
    isKnown found.shelf other = true ↔ isKnown shelf other = true ∨ other = found.name := by
  cases request with
  | name =>
    change byName files settings shelf text = .ok found at h
    cases hknown : isKnown shelf text with
    | true =>
      rw [byName_of_isKnown files settings hknown] at h
      cases h
      exact ⟨.inl, fun h => h.elim id fun h => h ▸ hknown⟩
    | false =>
      rw [byName_of_not_isKnown files settings hknown] at h
      obtain ⟨hname, hshelf⟩ := searchFolders_ok h
      rw [hname]
      exact hshelf other
  | file =>
    simp only [ask, ofFile] at h
    split at h
    · cases h
    · obtain ⟨hname, hshelf⟩ := register_ok h
      rw [hname]
      exact hshelf other
  | address => cases h

/-- Whether the file of a font in a folder can be read and is one. -/
def IsFont (files : FileTree) (settings : Settings) (name folder : String) : Prop :=
  ∃ bytes, files.read (fileIn settings name folder) = .ok bytes ∧ Platform.checkFont bytes = .ok ()

theorem searchFolders_of_look_error {fault : FileFault}
    (h : files.look (fileIn settings name folder) = .error fault) :
    searchFolders files settings shelf name (folder :: folders) =
      .error (.unsearched (fileIn settings name folder).text fault) := by
  rw [searchFolders, h]

theorem register_ok_iff {source : String} :
    (∃ found, register shelf name source bytes = .ok found) ↔ Platform.checkFont bytes = .ok () := by
  unfold register
  split
  · rename_i hfont
    simp [hfont]
  · rename_i words hfont
    simp [hfont]

/-- The search through some folders finds a font just if the first file of it there can be read and is one, and
every folder before can be looked into. -/
theorem searchFolders_ok_iff :
    (∃ found, searchFolders files settings shelf name folders = .ok found) ↔
      (∃ folder, firstFolder? files settings name folders = some folder ∧ IsFont files settings name folder) ∧
        ∀ folder ∈ foldersBefore files settings name folders, ¬ Unsearchable files settings name folder := by
  induction folders with
  | nil => simp [searchFolders, firstFolder?]
  | cons folder folders ih =>
    unfold searchFolders
    simp only
    split
    · rename_i fault hlook
      rw [(first_cons_of_false folders (hasFile_of_look_error hlook)).2]
      refine iff_of_false (by simp) fun h => ?_
      exact h.2 folder List.mem_cons_self ⟨fault, hlook⟩
    · rename_i bytes locks hlook
      obtain ⟨hfirst, hbefore⟩ := first_cons_of_true folders (by rw [hasFile, hlook])
      simp only [hfirst, hbefore, List.not_mem_nil, false_implies, implies_true, and_true, Option.some.injEq,
        exists_eq_left', IsFont]
      split
      · rename_i fault hread
        simp [hread]
      · rename_i content hread
        simp [register_ok_iff, hread]
    · rename_i entry hnofile hlook
      have hnone : hasFile files settings name folder = false := by
        rw [hasFile, hlook]
        split
        · rename_i bytes locks hfile
          exact absurd (Except.ok.inj hfile) (hnofile bytes locks)
        · rfl
      have hsearchable : ¬ Unsearchable files settings name folder := by
        rintro ⟨fault, herror⟩
        rw [hlook] at herror
        cases herror
      obtain ⟨hfirst, hbefore⟩ := first_cons_of_false folders hnone
      rw [hfirst, hbefore, ih, List.forall_mem_cons, and_iff_right hsearchable]

/-- A font that cannot be used yet is given by its name just if the first file of it can be read and is one,
and every folder before can be looked into. -/
theorem byName_ok_iff (hnew : isKnown shelf name = false) :
    (∃ found, byName files settings shelf name = .ok found) ↔
      (∃ folder, firstFolder? files settings name settings.fontFolders = some folder ∧
        IsFont files settings name folder) ∧
        ∀ folder ∈ foldersBefore files settings name settings.fontFolders,
          ¬ Unsearchable files settings name folder := by
  rw [byName_of_not_isKnown files settings hnew]
  exact searchFolders_ok_iff

/-! ## Questions over time -/

/-- A question for a font, with the files that are there when it is asked. -/
structure Question where
  files : FileTree
  request : Request
  text : String

/-- The name that a question is answered with, or why it is not. -/
def Question.answer (settings : Settings) (q : Question) (s : Session) : Except PageTemplate.Fault String :=
  ((Act.font q.files settings q.request q.text).outcome s).1

/-- The session after a question. -/
def Question.after (settings : Settings) (s : Session) (q : Question) : Session :=
  ((Act.font q.files settings q.request q.text).outcome s).2

/-- The session after some questions. -/
def afterAll (settings : Settings) (s : Session) (questions : List Question) : Session :=
  questions.foldl (Question.after settings) s

section Questions

variable {s : Session} {q : Question} {questions : List Question}

/-- A question that is not answered changes nothing. -/
theorem after_of_error {fault : PageTemplate.Fault} (h : q.answer settings s = .error fault) :
    q.after settings s = s := by
  unfold Question.answer at h
  unfold Question.after
  rw [Act.outcome_font] at h ⊢
  split
  · rfl
  · rename_i found hfound
    rw [hfound] at h
    cases h

/-- The fonts that can be used after a question are those before and the one it is answered with. -/
theorem isKnown_after_iff (other : String) :
    isKnown (q.after settings s).shelf other = true ↔
      isKnown s.shelf other = true ∨ q.answer settings s = .ok other := by
  rw [Question.after, Question.answer, Act.outcome_font]
  cases hask : ask q.files settings s.shelf q.request q.text with
  | error fault => simp
  | ok found =>
    simp only [Except.ok.injEq, eq_comm (a := found.name)]
    exact ask_ok hask other

/-- A font that can be used can be used ever after. -/
theorem isKnown_afterAll (h : isKnown s.shelf name = true) :
    isKnown (afterAll settings s questions).shelf name = true := by
  induction questions generalizing s with
  | nil => exact h
  | cons q questions ih => exact ih ((isKnown_after_iff name).2 (.inl h))

/-- A font that can be used is given by its name, with any files. -/
theorem answer_of_isKnown (files : FileTree) (h : isKnown s.shelf name = true) :
    Question.answer settings ⟨files, .name, name⟩ s = .ok name := by
  have hask : ask files settings s.shelf .name name = .ok { name := name, shelf := s.shelf } :=
    byName_of_isKnown files settings h
  rw [Question.answer, Act.outcome_font, hask]

theorem answer_of_ask_error {fault : Font.Fault} (h : ask q.files settings s.shelf q.request q.text = .error fault) :
    q.answer settings s = .error (.component (.font fault)) := by
  rw [Question.answer, Act.outcome_font, h]

theorem answer_ok_iff :
    (∃ name, q.answer settings s = .ok name) ↔
      ∃ found, ask q.files settings s.shelf q.request q.text = .ok found := by
  rw [Question.answer, Act.outcome_font]
  cases ask q.files settings s.shelf q.request q.text <;> simp

end Questions

/-- Whatever has been asked before, with whatever files: no font that can be used stops being so. A question
that is answered makes just the font it gives usable, and that one is given by its name ever after, with any
files; a question that is not answered changes nothing. A font that cannot be used yet is given by its name
just if the first file of it in the font folders can be read and is a font, and every folder before can be
looked into. -/
theorem answered_ever_after (settings : Settings) (s : Session) (earlier later : List Question) (q : Question) :
    let now := afterAll settings s earlier
    let next := q.after settings now
    (∀ other, isKnown now.shelf other = true → isKnown (afterAll settings next later).shelf other = true) ∧
      (∀ other, isKnown next.shelf other = true ↔
        isKnown now.shelf other = true ∨ q.answer settings now = .ok other) ∧
      (∀ given, q.answer settings now = .ok given → ∀ files,
        Question.answer settings ⟨files, .name, given⟩ (afterAll settings next later) = .ok given) ∧
      (∀ fault, q.answer settings now = .error fault → next = now) ∧
      (q.request = .name → isKnown now.shelf q.text = false →
        ((∃ given, q.answer settings now = .ok given) ↔
          (∃ folder, firstFolder? q.files settings q.text settings.fontFolders = some folder ∧
            IsFont q.files settings q.text folder) ∧
          ∀ folder ∈ foldersBefore q.files settings q.text settings.fontFolders,
            ¬ Unsearchable q.files settings q.text folder)) := by
  intro now next
  refine ⟨fun other h => ?_, isKnown_after_iff, fun given h files => ?_, fun fault h => after_of_error h,
    fun hrequest hnew => ?_⟩
  · have hnext : isKnown next.shelf other = true := (isKnown_after_iff other).2 (.inl h)
    exact isKnown_afterAll hnext
  · have hnext : isKnown next.shelf given = true := (isKnown_after_iff given).2 (.inr h)
    exact answer_of_isKnown files (isKnown_afterAll hnext)
  · rw [answer_ok_iff, hrequest]
    exact byName_ok_iff hnew

end Asking

/-! ## A font in the second folder -/

/-- A file in a folder. -/
def oneFont (bytes : List UInt8) : FileTree := { entries := [(["fonts", "My.ttf"], .file bytes)] }

/-- The folder of `oneFont` after another one. -/
def secondFolder (folder : String) : Settings := { fontFolders := [folder, "fonts"] }

theorem fileIn_secondFolder (other folder : String) :
    fileIn (secondFolder other) "My" folder =
      ((Path.ofText ".").join (Path.ofText folder)).join ⟨"", ["My.ttf"]⟩ := by
  have hfile : Path.ofText ("My" ++ ".ttf") = ⟨"", ["My.ttf"]⟩ := by decide +kernel
  rw [fileIn, hfile]
  rfl

theorem find_oneFont (bytes : List UInt8) :
    (oneFont bytes).find ⟨"", ["fonts", "My.ttf"]⟩ = .ok ["fonts", "My.ttf"] := by
  unfold FileTree.find
  rw [if_neg (by decide), if_neg (by decide)]
  rfl

theorem read_oneFont (bytes : List UInt8) (other : String) :
    (oneFont bytes).read (fileIn (secondFolder other) "My" "fonts") = .ok bytes := by
  have hpath : fileIn (secondFolder other) "My" "fonts" = ⟨"", ["fonts", "My.ttf"]⟩ := by
    rw [fileIn_secondFolder]
    decide +kernel
  rw [hpath, FileTree.read, find_oneFont]
  rfl

theorem hasFile_oneFont (bytes : List UInt8) (other : String) :
    hasFile (oneFont bytes) (secondFolder other) "My" "fonts" = true := by
  obtain ⟨locks, hlook⟩ := FileTree.look_of_read (read_oneFont bytes other)
  rw [hasFile, hlook]

theorem look_oneFont_empty (bytes : List UInt8) :
    (oneFont bytes).look (fileIn (secondFolder "empty") "My" "empty") = .ok none := by
  have hpath : fileIn (secondFolder "empty") "My" "empty" = ⟨"", ["empty", "My.ttf"]⟩ := by
    rw [fileIn_secondFolder]
    decide +kernel
  have hfind : (oneFont bytes).find ⟨"", ["empty", "My.ttf"]⟩ = .error .missing := by
    unfold FileTree.find
    rw [if_neg (by decide), if_neg (by decide)]
    rfl
  rw [hpath, FileTree.look, hfind]
  rfl

/-- Whatever is a font: one in the second folder is given, and given again when its file is gone. -/
theorem answered_ever_after_gone :
    isKnown [] "My" = false ∧ ∀ [Platform] (bytes : List UInt8), Platform.checkFont bytes = .ok () →
      let settings := secondFolder "empty"
      let q : Question := ⟨oneFont bytes, .name, "My"⟩
      ∃ given, q.answer settings {} = .ok given ∧
        Question.answer settings ⟨{}, .name, given⟩ (q.after settings {}) = .ok given := by
  have hnew : isKnown [] "My" = false := by decide +kernel
  refine ⟨hnew, ?_⟩
  intro _ bytes hfont settings q
  have hempty : hasFile q.files settings "My" "empty" = false := by
    rw [hasFile, look_oneFont_empty]
  have hfirst := first_cons_of_false ["fonts"] hempty
  have hsecond := first_cons_of_true [] (hasFile_oneFont bytes "empty")
  obtain ⟨-, -, hagain, -, hgives⟩ := answered_ever_after settings {} [] [] q
  have hgiven : ∃ given, q.answer settings {} = .ok given := by
    refine (hgives rfl hnew).2 ⟨⟨"fonts", ?_, bytes, read_oneFont bytes "empty", hfont⟩, ?_⟩
    · exact hfirst.1.trans hsecond.1
    · intro folder hfolder
      have hfolder : folder ∈ ["empty"] := (hfirst.2.trans (congrArg _ hsecond.2)) ▸ hfolder
      obtain rfl := List.mem_singleton.1 hfolder
      rintro ⟨fault, herror⟩
      cases (look_oneFont_empty bytes).symm.trans herror
  obtain ⟨given, hgiven⟩ := hgiven
  exact ⟨given, hgiven, hagain given hgiven {}⟩

/-- A name of some length. -/
def longName (n : Nat) : String := String.ofList (List.replicate n 'a')

theorem utf8ByteSize_longName (n : Nat) : (longName n).utf8ByteSize = n := by
  induction n with
  | zero => rfl
  | succ n ih =>
    rw [longName, List.replicate_succ, String.ofList_cons, String.utf8ByteSize_append,
      String.utf8ByteSize_singleton, ← longName, ih]
    have hsize : 'a'.utf8Size = 1 := by decide
    omega

theorem look_oneFont_longName (bytes : List UInt8) {n : Nat} (hn : 255 < n) :
    (oneFont bytes).look (fileIn (secondFolder (longName n)) "My" (longName n)) = .error .nameTooLong := by
  have hchars : (longName n).toList = List.replicate n 'a' := String.toList_ofList
  have hfolder : Path.ofText (longName n) = ⟨"", [longName n]⟩ := by
    apply Path.ofText_of_no_slash
    · simp [hchars]
    · rw [hchars, List.length_replicate]; omega
  have hpath : fileIn (secondFolder (longName n)) "My" (longName n) = ⟨"", [longName n, "My.ttf"]⟩ := by
    have hbase : Path.ofText "." = {} := by decide +kernel
    rw [fileIn_secondFolder, hbase, hfolder]
    rfl
  rw [hpath]
  have hfolder : (oneFont bytes).entryOf (oneFont bytes).workingFolder = .folder {} := rfl
  apply FileTree.look_of_long_first hfolder rfl
  · rwa [utf8ByteSize_longName]
  · simp [hchars]
  · decide

/-- Whatever is a font: a folder that is not there, and whose path is too long, hides one in the folder after
it. -/
theorem long_folder_hides_font :
    isKnown [] "My" = false ∧ ∀ [Platform] (bytes : List UInt8), Platform.checkFont bytes = .ok () →
      let settings := secondFolder (longName 300)
      firstFolder? (oneFont bytes) settings "My" settings.fontFolders = some "fonts" ∧
        IsFont (oneFont bytes) settings "My" "fonts" ∧
        ∃ path, Question.answer settings ⟨oneFont bytes, .name, "My"⟩ {} =
          .error (.component (.font (.unsearched path .nameTooLong))) := by
  have hnew : isKnown [] "My" = false := by decide +kernel
  refine ⟨hnew, ?_⟩
  intro _ bytes hfont settings
  have hlong := look_oneFont_longName bytes (n := 300) (by decide)
  have hask := (byName_of_not_isKnown (oneFont bytes) settings hnew).trans (searchFolders_of_look_error hlong)
  have hfirst := first_cons_of_false ["fonts"] (hasFile_of_look_error hlong)
  have hsecond := first_cons_of_true [] (hasFile_oneFont bytes (longName 300))
  exact ⟨hfirst.1.trans hsecond.1, ⟨bytes, read_oneFont bytes (longName 300), hfont⟩, _, answer_of_ask_error hask⟩

end Font

end PageTemplate
