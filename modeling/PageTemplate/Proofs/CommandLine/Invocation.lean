/-
Command lines that render, as data: a template, and settings in some order. Each
setting is spelled by the name of its option, or by a beginning of it that no
other option has, with its text behind an equals sign or as a word of its own
(`Setting.Spells`). A command line that spells an invocation is read as that
invocation, unless it asks for a profile that is none
(`Invocation.parse_of_spells`).
-/
import Mathlib.Data.List.TakeWhile
import PageTemplate.CommandLine.Request
import PageTemplate.Proofs.Result

namespace PageTemplate.CommandLine

/-! ## Options -/

namespace OptionName

/-- The name of each option of a rendering on the command line. -/
def long : OptionName → String
  | .help => "help"
  | .pair => "var"
  | .pairFile => "vars-file"
  | .output => "output"
  | .plugin => "component-plugin"
  | .profile => "settings-profile"
  | .settingsFile => "settings-file"
  | .verbose => "verbose"

/-- Whether an option is called by a text: its name, or a beginning of it that no other option has. -/
def IsCalled (name : OptionName) (start : String) : Prop :=
  start = name.long ∨
    start.toList <+: name.long.toList ∧ ∀ other : OptionName, start.toList <+: other.long.toList → other = name

/-- Whether the option is given a text. -/
def TakesText (name : OptionName) : Prop := name ≠ .help ∧ name ≠ .verbose
  deriving Decidable

/-- How an option of a rendering is written. -/
def form (name : OptionName) : OptionForm := (Command.render.forms.find? fun f => f.name = name).getD default

theorem name_form (name : OptionName) : name.form.name = name := by cases name <;> rfl

theorem form_name {f : OptionForm} (h : f ∈ Command.render.forms) : f.name.form = f := by
  simp only [Command.forms, renderingForms, loadingForms, List.mem_cons, List.mem_append, List.not_mem_nil,
    or_false] at h
  rcases h with rfl | (rfl | rfl | rfl) | rfl | rfl | rfl | rfl <;> rfl

theorem filter_form (name : OptionName) : (Command.render.forms.filter fun f => f.name = name) = [name.form] := by
  cases name <;> rfl

theorem longFlag_form (name : OptionName) : name.form.longFlag = "--" ++ name.long := by cases name <;> rfl

theorem form?_long (name : OptionName) : Command.render.form? ("--" ++ name.long) = some name.form := by
  cases name <;> rfl

theorem flags_form {name : OptionName} :
    ∀ flag ∈ name.form.flags, flag = "--" ++ name.long ∨ flag = "-h" ∨ flag = "-v" := by
  cases name <;> decide

theorem not_mem_long (name : OptionName) : '=' ∉ name.long.toList := by cases name <;> decide

theorem long_ne_empty (name : OptionName) : name.long ≠ "" := by cases name <;> decide

theorem intake_form (name : OptionName) : name.form.intake =
    match name with
    | .help | .verbose => .nothing
    | .profile => .choice Settings.profileNames
    | _ => .text := by
  cases name <;> rfl

variable {name : OptionName} {start : String}

theorem TakesText.intake_ne (h : name.TakesText) : name.form.intake ≠ .nothing := by
  obtain ⟨hhelp, hverbose⟩ := h
  rw [intake_form]
  cases name with
  | help => exact absurd rfl hhelp
  | verbose => exact absurd rfl hverbose
  | _ => simp

theorem IsCalled.begins (h : name.IsCalled start) : start.toList <+: name.long.toList := by
  rcases h with rfl | ⟨h, -⟩
  · exact List.prefix_rfl
  · exact h

theorem IsCalled.not_mem (h : name.IsCalled start) : '=' ∉ start.toList := fun hmem =>
  name.not_mem_long (h.begins.subset hmem)

theorem IsCalled.ne_empty (h : name.IsCalled start) : start ≠ "" := by
  rintro rfl
  rcases h with h | ⟨-, hother⟩
  · exact name.long_ne_empty h.symm
  · have hhelp := hother .help List.nil_prefix
    have hpair := hother .pair List.nil_prefix
    rw [← hhelp] at hpair
    cases hpair

end OptionName

/-! ## Words -/

namespace Command

open OptionName

variable {name : OptionName} {start text : String}

theorem toList_dashes (s : String) : ("--" ++ s).toList = '-' :: '-' :: s.toList := by
  rw [String.toList_append]
  rfl

theorem eq_of_dashes {s s' : String} (h : "--" ++ s = "--" ++ s') : s = s' := by
  have hlist := congrArg String.toList h
  rw [toList_dashes, toList_dashes] at hlist
  exact String.toList_injective (List.cons.inj (List.cons.inj hlist).2).2

/-- A word of two dashes is the flag of no option if it is called otherwise than each of them. -/
theorem form?_eq_none (h : ∀ other : OptionName, text ≠ other.long) : render.form? ("--" ++ text) = none := by
  rw [Option.eq_none_iff_forall_ne_some]
  intro f hf
  have hmem := List.mem_of_find?_eq_some hf
  have hflag := List.find?_some hf
  rw [← form_name hmem, List.contains_iff_mem] at hflag
  rcases flags_form _ hflag with hlong | hshort | hshort
  · exact h _ (eq_of_dashes hlong)
  · have hlist := congrArg String.toList hshort
    rw [toList_dashes] at hlist
    cases hlist
  · have hlist := congrArg String.toList hshort
    rw [toList_dashes] at hlist
    cases hlist

/-- What an option is called leads to it, by its flag or by what the flag begins with. -/
theorem form_of_isCalled (h : name.IsCalled start) :
    render.form? ("--" ++ start) = some name.form ∨
      render.form? ("--" ++ start) = none ∧ render.formsFrom ("--" ++ start).toList = [name.form] := by
  by_cases hlong : start = name.long
  · rw [hlong]
    exact .inl name.form?_long
  · obtain ⟨hbegins, hother⟩ := h.resolve_left hlong
    refine .inr ⟨form?_eq_none fun other hother' => ?_, ?_⟩
    · have hsame := hother other (hother' ▸ List.prefix_rfl)
      exact hlong (hsame ▸ hother')
    · rw [← filter_form, formsFrom]
      refine List.filter_congr fun f hf => ?_
      rw [← form_name hf, longFlag_form, toList_dashes, toList_dashes, name_form, ← Bool.coe_iff_coe,
        List.isPrefixOf_iff_prefix, List.cons_prefix_cons, List.cons_prefix_cons, decide_eq_true_iff]
      constructor
      · exact fun h => hother _ h.2.2
      · intro h
        exact ⟨rfl, rfl, h ▸ hbegins⟩

theorem isByLetter_dashes (cs : List Char) : isByLetter ('-' :: '-' :: cs) = false := by
  cases cs <;> rfl

section Equals

variable {cs : List Char} (h : '=' ∉ cs)
include h

theorem ne_equals_of_mem : ∀ c ∈ cs, (c != '=') = true := fun c hc => by
  rw [bne_iff_ne]
  exact fun he => h (he ▸ hc)

theorem beforeEquals_of_not_mem : beforeEquals cs = cs := List.takeWhile_eq_self_iff.2 (ne_equals_of_mem h)

theorem carriedBy_of_not_mem : carriedBy cs = none := by
  rw [carriedBy, List.dropWhile_eq_nil_iff.2 (ne_equals_of_mem h)]

theorem beforeEquals_append (text : List Char) : beforeEquals (cs ++ '=' :: text) = cs := by
  rw [beforeEquals, List.takeWhile_append_of_pos (ne_equals_of_mem h), List.takeWhile_cons_of_neg (by decide),
    List.append_nil]

theorem carriedBy_append (text : List Char) : carriedBy (cs ++ '=' :: text) = some text := by
  rw [carriedBy, List.dropWhile_append_of_pos (ne_equals_of_mem h), List.dropWhile_cons_of_neg (by decide)]

end Equals

/-- A word that calls an option means it. -/
theorem readWord_called (h : name.IsCalled start) :
    render.readWord ("--" ++ start) = .ok (.option ("--" ++ start) name.form false none) := by
  have hnot : '=' ∉ '-' :: '-' :: start.toList := by simp [h.not_mem]
  have hword : String.ofList ('-' :: '-' :: start.toList) = "--" ++ start := by
    rw [← toList_dashes, String.ofList_toList]
  rcases form_of_isCalled h with hform | ⟨hnone, hforms⟩
  · simp only [readWord, toList_dashes, hform, isByLetter_dashes]
  · rw [toList_dashes] at hforms
    simp only [readWord, toList_dashes, hnone, beforeEquals_of_not_mem hnot, carriedBy_of_not_mem hnot, hword,
      hforms, if_true]

/-- A word that calls an option, with a text behind an equals sign, means it with that text. -/
theorem readWord_joined (h : name.IsCalled start) (text : String) :
    render.readWord ("--" ++ (start ++ "=" ++ text)) =
      .ok (.option ("--" ++ (start ++ "=" ++ text)) name.form false (some text.toList)) := by
  have hnot : '=' ∉ '-' :: '-' :: start.toList := by simp [h.not_mem]
  have hword : String.ofList ('-' :: '-' :: start.toList) = "--" ++ start := by
    rw [← toList_dashes, String.ofList_toList]
  have hsplit : (start ++ "=" ++ text).toList = start.toList ++ '=' :: text.toList := by simp
  have hjoined : '-' :: '-' :: (start.toList ++ '=' :: text.toList) =
      ('-' :: '-' :: start.toList) ++ '=' :: text.toList := rfl
  have hother : render.form? ("--" ++ (start ++ "=" ++ text)) = none := by
    refine form?_eq_none fun other he => other.not_mem_long ?_
    rw [← he, hsplit]
    simp
  simp only [readWord, toList_dashes, hsplit, hother, hjoined, beforeEquals_append hnot, carriedBy_append hnot, hword]
  rcases form_of_isCalled h with hform | ⟨hnone, hforms⟩
  · simp only [hform, isByLetter_dashes, List.cons_append]
  · rw [toList_dashes] at hforms
    simp only [hnone, hforms, List.cons_append, if_true]

/-- A word that begins with no dash is what it is. -/
theorem readWord_plain (c : Command) {word : String} (h : word.toList.head? ≠ some '-') :
    c.readWord word = .ok (.plain word) := by
  have hlist : ∀ next rest, word.toList ≠ '-' :: next :: rest := fun next rest he => h (by rw [he]; rfl)
  rw [readWord]
  split
  · rename_i hdash
    exact absurd hdash (hlist _ _)
  · rfl

end Command

/-! ## Settings -/

/-- An option of a rendering and the text it is given, if it takes one. -/
structure Setting where
  name : OptionName
  text : String := ""
  deriving DecidableEq

namespace Setting

/-- The words that a setting is written with. -/
inductive Spells : Setting → List String → Prop
  | joined {name : OptionName} {start text : String} : name.TakesText → name.IsCalled start →
    Spells ⟨name, text⟩ ["--" ++ (start ++ "=" ++ text)]
  | apart {name : OptionName} {start text : String} : name.TakesText → name.IsCalled start →
    text.toList.head? ≠ some '-' → Spells ⟨name, text⟩ ["--" ++ start, text]
  | verbose {start : String} : OptionName.verbose.IsCalled start → Spells ⟨.verbose, ""⟩ ["--" ++ start]
  | letter : Spells ⟨.verbose, ""⟩ ["-v"]

/-- The words that settings are written with, one after the other. -/
inductive SpellAll : List Setting → List String → Prop
  | nil : SpellAll [] []
  | cons {setting : Setting} {settings : List Setting} {words rest : List String} :
    setting.Spells words → SpellAll settings rest → SpellAll (setting :: settings) (words ++ rest)

/-- Whether settings ask for no profile that is none. -/
def Allowed (settings : List Setting) : Prop :=
  ∀ setting ∈ settings, setting.name = .profile → setting.text ∈ Settings.profileNames
  deriving Decidable

theorem allowed_cons {setting : Setting} {settings : List Setting} :
    Allowed (setting :: settings) ↔
      (setting.name = .profile → setting.text ∈ Settings.profileNames) ∧ Allowed settings :=
  List.forall_mem_cons

/-- No setting asks for help. -/
theorem Spells.name_ne {setting : Setting} {words : List String} (h : setting.Spells words) :
    setting.name ≠ .help := by
  cases h with
  | joined htakes _ => exact htakes.1
  | apart htakes _ _ => exact htakes.1
  | verbose _ => simp
  | letter => simp

/-- A setting can be spelled just if its option takes a text, or the command is to be verbose by it. -/
theorem spells_iff {setting : Setting} :
    (∃ words, setting.Spells words) ↔ setting.name.TakesText ∨ setting = ⟨.verbose, ""⟩ := by
  constructor
  · rintro ⟨words, h⟩
    cases h with
    | joined htakes _ => exact .inl htakes
    | apart htakes _ _ => exact .inl htakes
    | verbose _ => exact .inr rfl
    | letter => exact .inr rfl
  · rintro (htakes | rfl)
    · exact ⟨_, .joined htakes (.inl rfl)⟩
    · exact ⟨_, .letter⟩

theorem spellAll_iff {settings : List Setting} :
    (∃ words, SpellAll settings words) ↔ ∀ setting ∈ settings, ∃ words, setting.Spells words := by
  constructor
  · rintro ⟨words, h⟩
    induction h with
    | nil => simp
    | cons hspells _ ih => exact List.forall_mem_cons.2 ⟨⟨_, hspells⟩, ih⟩
  · intro h
    induction settings with
    | nil => exact ⟨[], .nil⟩
    | cons setting settings ih =>
      obtain ⟨⟨words, hspells⟩, h⟩ := List.forall_mem_cons.1 h
      obtain ⟨rest, hrest⟩ := ih h
      exact ⟨words ++ rest, .cons hspells hrest⟩

/-- What the parser is given by a setting. -/
def given (setting : Setting) : Given := ⟨setting.name.form, setting.text⟩

end Setting

/-- A command line that renders: the template and the settings in their order. -/
structure Invocation where
  template : String
  settings : List Setting := []

namespace Invocation

/-- The words that an invocation is written with: the template stands among the settings, or behind them and
a divider. -/
inductive Spells (i : Invocation) : List String → Prop
  | among {before after : List Setting} {words rest : List String} : i.settings = before ++ after →
    Setting.SpellAll before words → Setting.SpellAll after rest → i.template.toList.head? ≠ some '-' →
      Spells i ("render" :: (words ++ i.template :: rest))
  | divided {words : List String} : Setting.SpellAll i.settings words →
      Spells i ("render" :: (words ++ ["--", i.template]))

/-- Some command line spells an invocation just if its settings can be spelled, whatever the template. -/
theorem spells_iff {i : Invocation} :
    (∃ args, i.Spells args) ↔ ∀ setting ∈ i.settings, setting.name.TakesText ∨ setting = ⟨.verbose, ""⟩ := by
  simp only [← Setting.spells_iff, ← Setting.spellAll_iff]
  constructor
  · rintro ⟨args, h⟩
    cases h with
    | among hsettings hbefore hafter _ =>
      rw [hsettings, Setting.spellAll_iff]
      exact List.forall_mem_append.2 ⟨Setting.spellAll_iff.1 ⟨_, hbefore⟩, Setting.spellAll_iff.1 ⟨_, hafter⟩⟩
    | divided hsettings => exact ⟨_, hsettings⟩
  · rintro ⟨words, hsettings⟩
    exact ⟨_, .divided hsettings⟩

variable (i : Invocation)

/-- The texts given to an option, in order. -/
def texts (name : OptionName) : List String := (i.settings.filter fun setting => setting.name = name).map (·.text)

/-- The text given last to an option. -/
def last? (name : OptionName) : Option String := (i.texts name).getLast?

/-- How the template is loaded. -/
def loading : Loading :=
  { template := Path.ofText i.template
    plugins := i.texts .plugin
    profile := (i.last? .profile).getD "default"
    settingsFile := (i.last? .settingsFile).map Path.ofText
    isVerbose := !(i.texts .verbose).isEmpty }

/-- What it is rendered with, and to where. -/
def rendering : Rendering :=
  { pairs := i.texts .pair
    pairFile := (i.last? .pairFile).map Path.ofText
    output := (i.last? .output).map Path.ofText }

end Invocation

/-! ## Reading settings -/

namespace Walked

variable {given given' : List Given} {w : Walked}

@[simp] theorem give_nil : w.give [] = w := rfl

@[simp] theorem give_give : (w.give given').give given = w.give (given ++ given') := by
  simp [give]

end Walked

namespace Command

variable {name : OptionName} {setting : Setting} {settings : List Setting} {words words' args : List String}

theorem readWords_cons (c : Command) {word : String} {read : Word} (hword : word ≠ "--")
    (hread : c.readWord word = .ok read) (args : List String) :
    c.readWords (word :: args) = (c.readWords args).map (read :: ·) := by
  rw [readWords, if_neg hword, hread]

theorem dashes_ne {s : String} (h : s ≠ "") : "--" ++ s ≠ "--" := fun he =>
  h (eq_of_dashes (he.trans (String.append_empty (s := "--")).symm))

theorem settle_cons (g : Given) (rest : List Given) :
    render.settle (g :: rest) = render.settle [g] >>= fun _ => render.settle rest := by
  rw [settle, settle]
  split
  · rfl
  · split
    · split <;> rfl
    · rfl

/-- What words are read as, and what walking over these comes to: some options are given, if they settle. -/
structure Reads (words : List String) (read : List Word) (given : List Given) : Prop where
  undivided : .divider ∉ read
  readWords : ∀ args, render.readWords (words ++ args) = (render.readWords args).map (read ++ ·)
  walk : ∀ isOpen rest, render.walk isOpen (read ++ rest) =
    render.settle given >>= fun _ => (render.walk isOpen rest).map (Walked.give given)

theorem Reads.nil : Reads [] [] [] where
  undivided := List.not_mem_nil
  readWords args := by
    simp only [List.nil_append]
    cases render.readWords args <;> rfl
  walk isOpen rest := by
    simp only [settle, Except.ok_bind, List.nil_append]
    cases render.walk isOpen rest <;> rfl

theorem Reads.cons {read read' : List Word} {g : Given} {given : List Given} (h : Reads words read [g])
    (h' : Reads words' read' given) : Reads (words ++ words') (read ++ read') (g :: given) where
  undivided hmem := (List.mem_append.1 hmem).elim h.undivided h'.undivided
  readWords args := by
    rw [List.append_assoc, h.readWords, h'.readWords]
    cases render.readWords args with
    | error cause => rfl
    | ok others => simp [Except.map]
  walk isOpen rest := by
    rw [List.append_assoc, h.walk, settle_cons g given]
    cases render.settle [g] with
    | error stop => rfl
    | ok _ =>
      simp only [Except.ok_bind]
      rw [h'.walk]
      cases render.settle given with
      | error stop => rfl
      | ok _ =>
        simp only [Except.ok_bind]
        cases render.walk isOpen rest with
        | error stop => rfl
        | ok w => simp [Except.map]

/-- A word that gives an option by itself. -/
theorem Reads.option {word : String} {form : OptionForm} {byLetter : Bool} {carried : Option (List Char)} {g : Given}
    (hword : word ≠ "--") (hread : render.readWord word = .ok (.option word form byLetter carried))
    (hunpack : render.unpackWord form byLetter carried = .ok { given := [g] }) :
    Reads [word] [.option word form byLetter carried] [g] where
  undivided := by simp
  readWords args := readWords_cons render hword hread args
  walk isOpen rest := by
    rw [List.singleton_append, Command.walk]
    simp only [hunpack]
    cases render.settle [g] <;> rfl

theorem unpackWord_carried (h : name.TakesText) (byLetter : Bool) (text : String) :
    render.unpackWord name.form byLetter (some text.toList) = .ok { given := [⟨name.form, text⟩] } := by
  have hunpack : render.unpack name.form byLetter text.toList =
      .ok { given := [⟨name.form, String.ofList text.toList⟩] } := by
    unfold unpack
    exact if_pos h.intake_ne
  rwa [String.ofList_toList] at hunpack

theorem unpackWord_verbose (byLetter : Bool) :
    render.unpackWord OptionName.verbose.form byLetter none = .ok { given := [⟨OptionName.verbose.form, ""⟩] } := by
  rw [unpackWord, bare, if_pos (OptionName.intake_form .verbose)]

/-- A setting is read as the one option that it gives. -/
theorem reads_of_spells (h : setting.Spells words) : ∃ read, Reads words read [setting.given] := by
  cases h with
  | joined htakes hcalled =>
    exact ⟨_, .option (dashes_ne (by simp)) (readWord_joined hcalled _) (unpackWord_carried htakes _ _)⟩
  | verbose hcalled =>
    exact ⟨_, .option (dashes_ne hcalled.ne_empty) (readWord_called hcalled) (unpackWord_verbose _)⟩
  | letter =>
    have hread : render.readWord "-v" = .ok (.option "-v" OptionName.verbose.form true none) := rfl
    exact ⟨_, .option (by decide) hread (unpackWord_verbose _)⟩
  | @apart name start text htakes hcalled hplain =>
    have htext : text ≠ "--" := by
      rintro rfl
      exact hplain rfl
    refine ⟨[.option ("--" ++ start) name.form false none, .plain text], by simp, fun args => ?_, fun isOpen rest => ?_⟩
    · rw [List.cons_append, List.singleton_append,
        readWords_cons render (dashes_ne hcalled.ne_empty) (readWord_called hcalled),
        readWords_cons render htext (readWord_plain render hplain)]
      cases render.readWords args <;> rfl
    · have hunpack : render.unpackWord name.form false none = .ok { waiting := some name.form } := by
        rw [unpackWord, bare, if_neg htakes.intake_ne]
      rw [List.cons_append, List.singleton_append, Command.walk]
      simp only [hunpack, List.nil_append, Setting.given]
      cases render.settle [⟨name.form, text⟩] <;> rfl

/-- Settings are read as the options that they give, in order. -/
theorem reads_of_spellAll (h : Setting.SpellAll settings words) :
    ∃ read, Reads words read (settings.map Setting.given) := by
  induction h with
  | nil => exact ⟨[], .nil⟩
  | cons hspells _ ih =>
    obtain ⟨read, hread⟩ := reads_of_spells hspells
    obtain ⟨read', hread'⟩ := ih
    exact ⟨read ++ read', hread.cons hread'⟩

/-! ## Reading an invocation -/

theorem settle_given (hname : setting.name ≠ .help) (given : List Given) :
    (setting.name = .profile → setting.text ∈ Settings.profileNames) ∧
        render.settle (setting.given :: given) = render.settle given ∨
      setting.name = .profile ∧ setting.text ∉ Settings.profileNames ∧
        ∃ cause, render.settle (setting.given :: given) = .error (.misuse render cause) := by
  have hform : setting.given.form = setting.name.form := rfl
  rw [settle, hform, OptionName.name_form, if_neg hname, OptionName.intake_form]
  cases hprofile : setting.name with
  | help => exact absurd hprofile hname
  | profile =>
    by_cases hmem : setting.text ∈ Settings.profileNames
    · exact .inl ⟨fun _ => hmem, if_pos (List.contains_iff_mem.2 hmem)⟩
    · exact .inr ⟨rfl, hmem, _, if_neg fun h => hmem (List.contains_iff_mem.1 h)⟩
  | _ => exact .inl ⟨fun h => (by cases h), rfl⟩

/-- Settings settle just if no profile is asked for that is none. -/
theorem settle_of_spellAll (h : Setting.SpellAll settings words) :
    Setting.Allowed settings ∧ render.settle (settings.map Setting.given) = .ok () ∨
      ¬Setting.Allowed settings ∧
        ∃ cause, render.settle (settings.map Setting.given) = .error (.misuse render cause) := by
  induction h with
  | nil => exact .inl ⟨fun _ hmem => absurd hmem List.not_mem_nil, rfl⟩
  | @cons setting settings _ _ hspells _ ih =>
    rw [List.map_cons, Setting.allowed_cons]
    rcases settle_given hspells.name_ne (settings.map Setting.given) with ⟨hfirst, hsettle⟩ | ⟨hprofile, hnot, herror⟩
    · rw [hsettle]
      exact ih.imp (fun ⟨hrest, hsettle⟩ => ⟨⟨hfirst, hrest⟩, hsettle⟩) fun ⟨hrest, hcause⟩ =>
        ⟨fun h => hrest h.2, hcause⟩
    · exact .inr ⟨fun h => hnot (h.1 hprofile), herror⟩

/-- Whether the words behind the one that calls the command come to the options that settings give and a template,
or are refused for a profile that is none. -/
def ComesTo (words : List String) (settings : List Setting) (template : String) : Prop :=
  ∃ read, render.readWords words = .ok read ∧
    (Setting.Allowed settings ∧
        render.walk true read = .ok { given := settings.map Setting.given, operand := [template] } ∨
      ¬Setting.Allowed settings ∧ ∃ cause, render.walk true read = .error (.misuse render cause))

/-- The template may stand among the settings. -/
theorem comesTo_among {before after : List Setting} {rest : List String} {template : String}
    (hbefore : Setting.SpellAll before words) (hafter : Setting.SpellAll after rest)
    (hplain : template.toList.head? ≠ some '-') :
    ComesTo (words ++ template :: rest) (before ++ after) template := by
  obtain ⟨read, hread⟩ := reads_of_spellAll hbefore
  obtain ⟨read', hread'⟩ := reads_of_spellAll hafter
  have htemplate : template ≠ "--" := by
    rintro rfl
    exact hplain rfl
  refine ⟨read ++ .plain template :: read', ?_, ?_⟩
  · have hrest := hread'.readWords []
    rw [List.append_nil] at hrest
    rw [hread.readWords, readWords_cons render htemplate (readWord_plain render hplain), hrest]
    simp [readWords, Except.map]
  · have htake : render.walk true (.plain template :: read') =
        (render.walk false read').map (Walked.take template) := by
      cases read' with
      | nil => rfl
      | cons word _ =>
        cases word with
        | divider => exact absurd List.mem_cons_self hread'.undivided
        | _ => rfl
    have hrest := hread'.walk false []
    rw [List.append_nil] at hrest
    have hallowed : Setting.Allowed (before ++ after) ↔ Setting.Allowed before ∧ Setting.Allowed after :=
      List.forall_mem_append
    rw [hread.walk, htake, hrest, hallowed]
    rcases settle_of_spellAll hbefore with ⟨hfirst, hsettle⟩ | ⟨hfirst, cause, hsettle⟩
    · rcases settle_of_spellAll hafter with ⟨hsecond, hsettle'⟩ | ⟨hsecond, cause, hsettle'⟩
      · refine .inl ⟨⟨hfirst, hsecond⟩, ?_⟩
        rw [hsettle, hsettle']
        simp [Except.ok_bind, walk, Except.map, Walked.give, Walked.take]
      · refine .inr ⟨fun h => hsecond h.2, cause, ?_⟩
        rw [hsettle, hsettle']
        rfl
    · refine .inr ⟨fun h => hfirst h.1, cause, ?_⟩
      rw [hsettle]
      rfl

/-- It may stand behind them and a divider. -/
theorem comesTo_divided (h : Setting.SpellAll settings words) (template : String) :
    ComesTo (words ++ ["--", template]) settings template := by
  obtain ⟨read, hread⟩ := reads_of_spellAll h
  refine ⟨read ++ [.divider, .plain template], ?_, ?_⟩
  · rw [hread.readWords]
    simp [readWords, Except.map]
  · rw [hread.walk]
    refine (settle_of_spellAll h).imp (fun ⟨hallowed, hsettle⟩ => ⟨hallowed, ?_⟩)
      fun ⟨hnot, cause, hsettle⟩ => ⟨hnot, cause, ?_⟩
    · rw [hsettle]
      simp [Except.ok_bind, walk, Except.map, Walked.give, Walked.take, leadsOn, subcommands, operand]
    · rw [hsettle]
      rfl

theorem comesTo_of_spells {i : Invocation} (h : i.Spells ("render" :: words)) :
    ComesTo words i.settings i.template := by
  cases h with
  | among hsettings hbefore hafter hplain =>
    rw [hsettings]
    exact comesTo_among hbefore hafter hplain
  | divided hsettings => exact comesTo_divided hsettings i.template

/-- The command for all commands takes every word as it is written: it has too few options to confuse any. -/
theorem readWord_top (word : String) : ∃ read, top.readWord word = .ok read ∧ read.text = word := by
  have hother : (otherWord word).text = word := by
    unfold otherWord
    split <;> rfl
  simp only [readWord]
  split
  · split
    · exact ⟨_, rfl, rfl⟩
    · split
      · exact ⟨_, rfl, rfl⟩
      · split
        · have hfew : (top.formsFrom (beforeEquals word.toList)).length ≤ 1 := List.length_filter_le _ _
          split
          · exact ⟨_, rfl, hother⟩
          · exact ⟨_, rfl, rfl⟩
          · rename_i hnone hone
            rcases hforms : top.formsFrom (beforeEquals word.toList) with _ | ⟨form, _ | ⟨_, _⟩⟩
            · exact absurd hforms hnone
            · exact absurd hforms (hone form)
            · rw [hforms] at hfew
              simp at hfew
        · split
          · exact ⟨_, rfl, rfl⟩
          · exact ⟨_, rfl, hother⟩
  · exact ⟨_, rfl, rfl⟩

theorem readWords_top (args : List String) : ∃ read, top.readWords args = .ok read ∧ read.map Word.text = args := by
  induction args with
  | nil => exact ⟨[], rfl, rfl⟩
  | cons word args ih =>
    by_cases hdivider : word = "--"
    · refine ⟨.divider :: args.map .plain, by rw [readWords, if_pos hdivider], ?_⟩
      simp [hdivider, Word.text, Function.comp_def]
    · obtain ⟨first, hfirst, htext⟩ := readWord_top word
      obtain ⟨others, hothers, htexts⟩ := ih
      refine ⟨first :: others, ?_, by rw [List.map_cons, htext, htexts]⟩
      rw [readWords_cons top hdivider hfirst, hothers]
      rfl

/-- The words behind the one that calls the command are the command's. -/
theorem parse_top (args : List String) : top.parse ("render" :: args) = render.parse args := by
  obtain ⟨read, hread, htexts⟩ := readWords_top args
  have hwords : top.readWords ("render" :: args) = .ok (.plain "render" :: read) := by
    rw [readWords_cons top (by decide) (readWord_plain top (by decide)), hread]
    rfl
  have hwalk : top.walk top.operand.isSome (.plain "render" :: read) = .ok { operand := "render" :: args } := by
    rw [← htexts]
    cases read with
    | nil => rfl
    | cons word _ => cases word <;> rfl
  rw [parse, hwords]
  simp only [hwalk]
  change (render.parse args).map _ = _
  cases render.parse args <;> rfl

end Command

namespace Invocation

variable {i : Invocation} {args : List String}

/-- What a command line that gives the options of settings asks for. -/
theorem request_given (i : Invocation) :
    (Parsed.mk .render (i.settings.map Setting.given) i.template []).request = .render i.loading i.rendering := by
  have htexts : ∀ name, Parsed.texts ⟨.render, i.settings.map Setting.given, i.template, []⟩ name = i.texts name := by
    intro name
    simp only [Parsed.texts, texts, List.filter_map, List.map_map, Function.comp_def, Setting.given,
      OptionName.name_form]
  simp only [Parsed.request, Parsed.loading, Parsed.rendering, Parsed.path?, Parsed.last?, htexts, loading, rendering,
    last?]

/-- A command line that spells an invocation asks for what the invocation says, or it asks for a profile that is
none and is refused. -/
theorem parse_of_spells (h : i.Spells args) :
    Setting.Allowed i.settings ∧ (parse args).map Parsed.request = .ok (.render i.loading i.rendering) ∨
      ¬Setting.Allowed i.settings ∧ ∃ cause, parse args = .error (.misuse .render cause) := by
  obtain ⟨words, rfl⟩ : ∃ words, args = "render" :: words := by
    cases h <;> exact ⟨_, rfl⟩
  obtain ⟨read, hread, hwalk⟩ := Command.comesTo_of_spells h
  rw [parse, Command.parse_top, Command.parse, hread]
  refine hwalk.imp (fun ⟨hallowed, hwalk⟩ => ⟨hallowed, ?_⟩) fun ⟨hnot, cause, hwalk⟩ => ⟨hnot, cause, ?_⟩
  · simp [Command.operand, hwalk, Except.map, request_given]
  · simp [Command.operand, hwalk]

end Invocation

end PageTemplate.CommandLine
