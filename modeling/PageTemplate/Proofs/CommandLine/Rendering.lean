/-
Rendering from the command line. What a command line renders is what the library
renders: the values of its file updated by its pairs in turn, the settings, the
types of its plugins and its template give the same document or the same fault
(`CommandLine.run_render`). The command tells its journal more than the library
does, but nothing reads the journal. The document is written once all else has
gone well, so a fault until then leaves every file as it was. Only two things can
still go wrong: writing breaks off, which leaves a part of the document, or the
last line cannot be printed, and then the document is there already.
-/
import PageTemplate.CommandLine.Outcome
import PageTemplate.Platform.Plain
import PageTemplate.Proofs.CommandLine.Invocation
import PageTemplate.Proofs.Files.Writing
import PageTemplate.Proofs.Registry.Registering
import PageTemplate.Proofs.Template.Journal
import PageTemplate.Proofs.Variables

namespace PageTemplate

variable {μ κ : Type}

namespace CommandLine

/-! ## Steps and actions -/

/-- A step that comes to what an action on builders comes to, and prints and writes nothing. -/
def Step.Does {α : Type} (step : Step α) (act : BuilderAct μ κ α) : Prop :=
  ∀ p s, p.session.Alike s →
    ∃ q, (ExceptT.run step).run p =
        ((Builder.outcome act s).1.mapError fun failure => .template failure.fault, q) ∧
      q.session.Alike (Builder.outcome act s).2 ∧ q.printed = p.printed ∧ q.files = p.files

namespace Step

variable {α β : Type}

theorem run_ofExcept {ε : Type} (wrap : ε → CommandFault) (x : Except ε α) (p : Progress) :
    (ExceptT.run (Step.ofExcept wrap x)).run p = (x.mapError wrap, p) := by
  cases x <;> rfl

theorem run_act (act : BuilderAct μ κ α) (p : Progress) :
    (ExceptT.run (Step.act act)).run p =
      ((Builder.outcome act p.session).1.mapError fun failure => .template failure.fault,
        { p with session := (Builder.outcome act p.session).2 }) := by
  have hget : (ExceptT.run (get : Step Progress)).run p = (.ok p, p) := rfl
  have hact : StateT.run (ExceptT.run act) p.session = Builder.outcome act p.session := rfl
  rw [Step.act, run_bind, hget]
  simp only [hact]
  rcases Builder.outcome act p.session with ⟨_ | a, t⟩ <;> rfl

theorem does_act {act : BuilderAct μ κ α} (h : IgnoresJournal act) : Step.Does (Step.act act) act := by
  intro p s hps
  obtain ⟨hsame, hafter⟩ : (Builder.outcome act p.session).1 = (Builder.outcome act s).1 ∧
    (Builder.outcome act p.session).2.Alike (Builder.outcome act s).2 := h p.session s hps
  refine ⟨{ p with session := (Builder.outcome act p.session).2 }, ?_, hafter, rfl, rfl⟩
  rw [run_act, hsame]

theorem does_pure (a : α) : Step.Does (pure a) (pure a : BuilderAct μ κ α) := fun _ _ hps => ⟨_, rfl, hps, rfl, rfl⟩

theorem does_throw (fault : Fault) :
    Step.Does (throw (.template fault) : Step α) (throw { fault := fault } : BuilderAct μ κ α) :=
  fun _ _ hps => ⟨_, rfl, hps, rfl, rfl⟩

theorem Does.bind {step : Step α} {act : BuilderAct μ κ α} {next : α → Step β} {then' : α → BuilderAct μ κ β}
    (h : Step.Does step act) (hnext : ∀ a, Step.Does (next a) (then' a)) :
    Step.Does (step >>= next) (act >>= then') := by
  intro p s hps
  obtain ⟨q, hrun, hqs, hprinted, hfiles⟩ := h p s hps
  rw [run_bind, hrun, Builder.outcome_bind]
  rcases hact : Builder.outcome act s with ⟨failure | a, t⟩
  · rw [hact] at hqs
    exact ⟨q, rfl, hqs, hprinted, hfiles⟩
  · rw [hact] at hqs
    obtain ⟨r, hrest, hrs, hprinted', hfiles'⟩ := hnext a q t hqs
    exact ⟨r, hrest, hrs, hprinted'.trans hprinted, hfiles'.trans hfiles⟩

/-- What is told meanwhile makes no difference. -/
theorem Does.after_tell {step : Step α} {act : BuilderAct μ κ α} (h : Step.Does step act)
    (entries : List JournalEntry) : Step.Does (Step.tell entries >>= fun _ => step) act := by
  have htell : Step.Does (Step.tell entries) (pure () : BuilderAct μ κ Unit) :=
    fun _ _ hps => ⟨_, rfl, hps, rfl, rfl⟩
  have hboth := htell.bind fun _ => h
  rwa [pure_bind] at hboth

end Step

/-! ## Delivering a document -/

/-- Writes a document and says where. -/
def deliver (world : World μ) (output : Path) (document : List UInt8) : Step Unit := do
  Step.write output document
  Step.print world (writtenText output)

theorem run_deliver (world : World μ) (output : Path) (document : List UInt8) (p : Progress) :
    (ExceptT.run (deliver world output document)).run p =
      match p.files.write output document with
      | (.error fault, files) => (.error (.writing output fault), { p with files := files })
      | (.ok (), files) =>
        match world.printing (writtenText output) with
        | some fault => (.error (.printing fault), { p with files := files })
        | none => (.ok (), { p with files := files, printed := p.printed ++ writtenText output }) := by
  have hwrite : (ExceptT.run (Step.write output document)).run p =
      (((p.files.write output document).1.mapError (.writing output)),
        { p with files := (p.files.write output document).2 }) := by
    rw [← Step.run_ofExcept]
    rfl
  rw [deliver, run_bind, hwrite]
  rcases p.files.write output document with ⟨fault | _, files⟩
  · rfl
  · simp only [Except.mapError, Step.print]
    cases world.printing (writtenText output) <;> rfl

/-! ## How commands end -/

/-- Whether a command ends with a fault: a bad value or a file is complained about, and the command has the code
2, any other fault is handed on. Nothing is printed but the complaint. -/
def Outcome.EndsWith (o : Outcome) (fault : CommandFault) : Prop :=
  o.printed = "" ∧
    if fault.kind.isReported then
      o.ending = .ok 2 ∧ ∃ before, o.complaints = before ++ "error: " ++ fault.message ++ "\n"
    else o.ending = .error fault

/-- A command that fails and has printed nothing ends with its fault. -/
theorem Outcome.fail_endsWith {o : Outcome} (h : o.printed = "") (fault : CommandFault) :
    (o.fail fault).EndsWith fault ∧ (o.fail fault).files = o.files := by
  unfold Outcome.fail Outcome.EndsWith
  split
  · exact ⟨⟨h, rfl, o.complaints, rfl⟩, rfl⟩
  · exact ⟨⟨h, rfl⟩, rfl⟩

end CommandLine

section

variable [Platform]

/-- The document of a page, with no builder to tell of. -/
def Builder.documentOf (page : Page) : BuilderAct μ κ (List UInt8) :=
  match Platform.writeDocument page with
  | .ok document => pure document
  | .error fault => throw { fault := .foreign fault }

namespace CommandLine

/-- Writing the document of a page is finishing the page and writing that. -/
theorem does_write (drawn : Builder μ κ) :
    Step.Does (Step.ofExcept .template drawn.write)
      ((match drawn.encode with
        | .ok page => pure page
        | .error fault => throw { fault := fault }) >>= Builder.documentOf : BuilderAct μ κ _) := by
  unfold Builder.write Builder.documentOf
  cases drawn.encode with
  | error fault => exact Step.does_throw fault
  | ok page =>
    rw [pure_bind]
    change Step.Does (Step.ofExcept .template ((Platform.writeDocument page).mapError .foreign)) _
    cases Platform.writeDocument page with
    | error fault => exact Step.does_throw (.foreign fault)
    | ok document => exact Step.does_pure document

/-! ## Values and types -/

/-- Where the document of a command line goes. -/
def outputPath (loading : Loading) (rendering : Rendering) : Path :=
  rendering.output.getD (defaultOutput loading.template)

/-- The values of a command line: those of its file, if it names one, with its pairs inserted in turn. -/
def suppliedValues (files : FileTree) (rendering : Rendering) : Except Variables.Fault (Dictionary Json) :=
  match rendering.pairFile with
  | none => Variables.insertPairs [] rendering.pairs
  | some path => do Variables.insertPairs (← Variables.load files path) rendering.pairs

theorem run_gatherValues (world : World μ) (rendering : Rendering) (p : Progress) :
    (ExceptT.run (gatherValues world rendering)).run p =
      ((suppliedValues world.around.files rendering).mapError .values, p) := by
  have hpairs : ∀ values, (ExceptT.run (do
      let pairs ← Step.ofExcept .values (Variables.readPairs rendering.pairs)
      return Dictionary.update values pairs)).run p =
        ((Variables.insertPairs values rendering.pairs).mapError .values, p) := fun values => by
    rw [← Variables.readPairs_update]
    cases Variables.readPairs rendering.pairs <;> rfl
  unfold gatherValues suppliedValues
  cases rendering.pairFile with
  | none => exact hpairs []
  | some path =>
    simp only
    rw [run_bind, Step.run_ofExcept]
    cases Variables.load world.around.files path with
    | error fault => rfl
    | ok values => exact hpairs values

variable [IsKind μ κ]

/-- The types that a command line has: the built-in ones and those of plugins. -/
def knownTypes (world : World μ) (plugins : List String) : Registry μ :=
  ((Registry.builtinAs IsKind.ofShape).loadPlugins world.plugins plugins Registry.pluginGroup).registry

theorem run_loadRegistry (world : World μ) (plugins : List String) (p : Progress) :
    ∃ q, (ExceptT.run (loadRegistry world plugins)).run p = (.ok (knownTypes world plugins), q) ∧
      q.session.Alike p.session ∧ q.printed = p.printed ∧ q.files = p.files :=
  ⟨_, rfl, ⟨rfl, rfl⟩, rfl, rfl⟩

end CommandLine

/-! ## What the library makes of a command line -/

variable [IsKind μ κ] [IsComponent κ]

namespace Builder

/-- The page of a template in a session of its own. -/
def renderAlone (around : Surroundings) (registry : Registry μ) (settings : Settings) (path : String)
    (values : Dictionary Json) : Except Fault Page :=
  let given := values.map fun (name, value) => (name, Value.json value)
  (outcome (render around registry settings path given : BuilderAct μ κ Page) {}).1.mapError (·.fault)

end Builder

namespace CommandLine

/-- The page that the library comes to with what a command line gives it. -/
def libraryPage (world : World μ) (loading : Loading) (rendering : Rendering) : Except CommandFault Page := do
  let files := world.around.files
  let values ← (suppliedValues files rendering).mapError .values
  let settings ← (Settings.load files loading.profile loading.settingsFile).mapError .settings
  (Builder.renderAlone world.around (knownTypes world loading.plugins) settings loading.template.text
    values).mapError .template

/-- The document of that page. -/
def libraryDocument (world : World μ) (loading : Loading) (rendering : Rendering) :
    Except CommandFault (List UInt8) := do
  let page ← libraryPage world loading rendering
  (Platform.writeDocument page).mapError fun fault => .template (.foreign fault)

/-! ## The stages of a command -/

/-- Draws a template that is loaded from a file, as a document. -/
def drawDocument (world : World μ) (registry : Registry μ) (settings : Settings) (template : Path)
    (values : Dictionary Json) : Step (List UInt8) := do
  let empty : Builder μ κ := { registry := registry, settings := settings }
  let b ← Step.act (Builder.ofAct (empty.loadFile world.around template.text) : BuilderAct μ κ _)
  let missing := b.needed.filter fun name => !values.contains name
  let _ ← if missing ≠ [] then Step.tell [missingEntry missing] else pure ()
  let supplied ← Step.act
    (b.supply world.around.files (values.map fun (name, value) => (name, Value.json value)))
  let drawn ← Step.act supplied.apply
  Step.ofExcept .template drawn.write

theorem render_eq (world : World μ) (loading : Loading) (rendering : Rendering) :
    render world loading rendering = (do
      let values ← gatherValues world rendering
      let registry ← loadRegistry world loading.plugins
      let settings ←
        Step.ofExcept .settings (Settings.load world.around.files loading.profile loading.settingsFile)
      let document ← drawDocument world registry settings loading.template values
      deliver world (outputPath loading rendering) document) := by
  simp only [render, loadTemplate, bind_assoc, drawDocument, deliver]
  refine bind_congr fun values => bind_congr fun registry => bind_congr fun settings => bind_congr fun b => ?_
  split <;> (simp only [bind_assoc]; rfl)

/-! ## Drawing a document -/

/-- Drawing a document comes to what the library comes to in a session of its own, whatever the journal holds. -/
theorem run_drawDocument [IsKind.IgnoresJournal μ κ] [IsComponent.IgnoresJournal κ] (world : World μ)
    (registry : Registry μ) (settings : Settings) (template : Path) (values : Dictionary Json) {p : Progress}
    (hp : p.session.Alike {}) :
    ∃ q, (ExceptT.run (drawDocument world registry settings template values)).run p =
        ((do
          let page ← (Builder.renderAlone world.around registry settings template.text values).mapError .template
          (Platform.writeDocument page).mapError fun fault => .template (.foreign fault)), q) ∧
      q.printed = p.printed ∧ q.files = p.files := by
  have hdoes : Step.Does (drawDocument world registry settings template values)
      (Builder.render world.around registry settings template.text
        (values.map fun (name, value) => (name, Value.json value)) >>= Builder.documentOf : BuilderAct μ κ _) := by
    unfold drawDocument Builder.render
    simp only [bind_assoc]
    let empty : Builder μ κ := { registry := registry, settings := settings }
    have hload : IgnoresJournal (Builder.ofAct (empty.loadFile world.around template.text) : BuilderAct μ κ _) :=
      Builder.ignoresJournal_ofAct (Builder.ignoresJournal_loadFile world.around empty template.text)
    refine (Step.does_act hload).bind fun b => ?_
    have hdraw := (Step.does_act (b.ignoresJournal_supply world.around.files
      (values.map fun entry => (entry.1, Value.json entry.2)))).bind fun supplied =>
        (Step.does_act supplied.ignoresJournal_apply).bind does_write
    split
    · exact hdraw.after_tell _
    · exact hdraw
  obtain ⟨q, hrun, -, hprinted, hfiles⟩ := hdoes p {} hp
  refine ⟨q, hrun.trans ?_, hprinted, hfiles⟩
  rw [Builder.outcome_bind, Builder.renderAlone]
  rcases Builder.outcome _ {} with ⟨failure | page, t⟩
  · rfl
  · simp only [Except.mapError, Except.ok_bind, Builder.documentOf]
    cases Platform.writeDocument page <;> rfl

/-! ## The whole command -/

section

variable {world : World μ} {r : Request} {q : Progress}

theorem Request.run_of_error {fault : CommandFault}
    (h : (ExceptT.run (r.steps world)).run { files := world.around.files } = (.error fault, q))
    (hprinted : q.printed = "") :
    (r.run world).EndsWith fault ∧ (r.run world).files = q.files := by
  have hrun : StateT.run (ExceptT.run (r.steps world)) { files := world.around.files } = (.error fault, q) := h
  unfold Request.run
  rw [hrun]
  exact Outcome.fail_endsWith hprinted fault

theorem Request.run_of_ok
    (h : (ExceptT.run (r.steps world)).run { files := world.around.files } = (.ok (), q)) :
    (r.run world).ending = .ok 0 ∧ (r.run world).printed = q.printed ∧ (r.run world).files = q.files := by
  have hrun : StateT.run (ExceptT.run (r.steps world)) { files := world.around.files } = (.ok (), q) := h
  unfold Request.run
  rw [hrun]
  exact ⟨rfl, rfl, rfl⟩

end

variable [IsKind.IgnoresJournal μ κ] [IsComponent.IgnoresJournal κ]

/-- Rendering comes to what the library comes to. Until the document is delivered nothing is printed or written. -/
theorem run_steps (world : World μ) (loading : Loading) (rendering : Rendering) :
    ∃ q : Progress, q.printed = "" ∧ q.files = world.around.files ∧
      (ExceptT.run ((Request.render loading rendering).steps world)).run { files := world.around.files } =
        match libraryDocument world loading rendering with
        | .error fault => (.error fault, q)
        | .ok document => (ExceptT.run (deliver world (outputPath loading rendering) document)).run q := by
  have hsteps : (Request.render loading rendering).steps world = render world loading rendering := rfl
  rw [hsteps, render_eq, run_bind, run_gatherValues, libraryDocument, libraryPage]
  cases suppliedValues world.around.files rendering with
  | error fault => exact ⟨{ files := world.around.files }, rfl, rfl, rfl⟩
  | ok values =>
    obtain ⟨q, hregistry, halike, hprinted, hfiles⟩ :=
      run_loadRegistry world loading.plugins { files := world.around.files }
    simp only [Except.mapError, Except.ok_bind]
    rw [run_bind, hregistry]
    simp only
    rw [run_bind, Step.run_ofExcept]
    cases Settings.load world.around.files loading.profile loading.settingsFile with
    | error fault => exact ⟨q, hprinted, hfiles, rfl⟩
    | ok settings =>
      obtain ⟨r, hdraw, hprinted', hfiles'⟩ := run_drawDocument world (knownTypes world loading.plugins) settings
        loading.template values halike
      refine ⟨r, hprinted'.trans hprinted, hfiles'.trans hfiles, ?_⟩
      simp only [Except.mapError, Except.ok_bind]
      rw [run_bind, hdraw]
      cases Builder.renderAlone world.around (knownTypes world loading.plugins) settings loading.template.text
        values with
      | error fault => rfl
      | ok page =>
        simp only [Except.mapError, Except.ok_bind]
        cases Platform.writeDocument page <;> rfl

/-- How a rendering ends: with the fault of the library, or with what comes of writing the document. -/
theorem request_run (world : World μ) (loading : Loading) (rendering : Rendering) :
    let o := (Request.render loading rendering).run world
    let path := outputPath loading rendering
    match libraryDocument world loading rendering with
    | .error fault => o.EndsWith fault ∧ o.files = world.around.files
    | .ok document =>
      let written := world.around.files.write path document
      o.files = written.2 ∧
      match written.1 with
      | .error fault => o.EndsWith (.writing path fault)
      | .ok () =>
        match world.printing (writtenText path) with
        | some fault => o.EndsWith (.printing fault)
        | none => o.ending = .ok 0 ∧ o.printed = writtenText path := by
  obtain ⟨q, hprinted, hfiles, hrun⟩ := run_steps world loading rendering
  cases hlibrary : libraryDocument world loading rendering with
  | error fault =>
    rw [hlibrary] at hrun
    rw [← hfiles]
    exact Request.run_of_error hrun hprinted
  | ok document =>
    simp only [hlibrary, run_deliver, hfiles] at hrun ⊢
    rcases hwrite : world.around.files.write (outputPath loading rendering) document with ⟨fault | _, files⟩
    · simp only [hwrite] at hrun ⊢
      exact (Request.run_of_error hrun hprinted).symm
    · simp only [hwrite] at hrun ⊢
      cases hprinting : world.printing (writtenText (outputPath loading rendering)) with
      | some fault =>
        simp only [hprinting] at hrun
        exact (Request.run_of_error hrun hprinted).symm
      | none =>
        simp only [hprinting, hprinted, String.empty_append] at hrun
        obtain ⟨hending, hprinted, hfiles⟩ := Request.run_of_ok hrun
        exact ⟨hfiles, hending, hprinted⟩

/-- How a rendering ends whose document goes to a path, by what the library makes of it. A fault of the library
leaves every file as it was, and so does a document that cannot be written. One that is written is the one file
that has changed. Writing that breaks off leaves a part of it there, and a last line that cannot be printed leaves
all of it. -/
def Outcome.Renders (o : Outcome) (world : World μ) (path : Path) : Except CommandFault (List UInt8) → Prop
  | .error fault => o.EndsWith fault ∧ o.files = world.around.files
  | .ok document =>
    let files := world.around.files
    match files.destination path with
    | .error fault => o.EndsWith (.writing path (.refused fault)) ∧ o.files = files
    | .ok place =>
      (∀ other, other ≠ place → o.files.entryAt? other = files.entryAt? other) ∧
      match files.breaking with
      | some (count, refusal) =>
        o.EndsWith (.writing path (.broken refusal)) ∧ o.files.Holds path (document.take count)
      | none => o.files.Holds path document ∧
        match world.printing (writtenText path) with
        | some fault => o.EndsWith (.printing fault)
        | none => o.ending = .ok 0 ∧ o.printed = writtenText path

theorem request_renders (world : World μ) (loading : Loading) (rendering : Rendering) :
    ((Request.render loading rendering).run world).Renders world (outputPath loading rendering)
      (libraryDocument world loading rendering) := by
  have hends := request_run world loading rendering
  cases hlibrary : libraryDocument world loading rendering with
  | error fault =>
    rw [hlibrary] at hends
    exact hends
  | ok document =>
    simp only [hlibrary] at hends
    obtain ⟨hfiles, hends⟩ := hends
    have hframe := world.around.files.write_frame (outputPath loading rendering) document
    simp only [Outcome.Renders]
    cases hdest : world.around.files.destination (outputPath loading rendering) with
    | error fault =>
      simp only [hdest] at hframe
      simp only [hframe] at hends hfiles
      exact ⟨hends, hfiles⟩
    | ok place =>
      simp only [hdest] at hframe
      obtain ⟨hothers, hwritten⟩ := hframe
      rw [hfiles]
      refine ⟨hothers, ?_⟩
      cases hbreaking : world.around.files.breaking with
      | some broken =>
        simp only [hbreaking] at hwritten
        obtain ⟨hresult, hholds⟩ := hwritten
        rw [hresult] at hends
        exact ⟨hends, hholds⟩
      | none =>
        simp only [hbreaking] at hwritten
        obtain ⟨hresult, hholds⟩ := hwritten
        rw [hresult] at hends
        exact ⟨hholds, hends⟩

end CommandLine

end

namespace CommandLine

/-- A circle whose place and radius wait for values. -/
def cardTemplate : String :=
  "\x7b\"components\":[\x7b\"type\":\"circle\",\"properties\":\x7b\"centreX\":\"$x$\",\"centreY\":\"0\"," ++
    "\"radius\":\"$r$\",\"colour\":\x7b\"R\":\"0\",\"G\":\"0\",\"B\":\"0\",\"A\":\"9\"\x7d\x7d\x7d]\x7d"

/-- The card, a file with values for it, and settings that give it a size, and a folder elsewhere. -/
def cardWorld : World :=
  { around :=
      { now := default
        files :=
          { workingFolder := ["home"]
            entries := [(["home", "card.json"], .file cardTemplate.toUTF8.toList),
              (["home", "values.json"], .file "\x7b\"x\":1,\"r\":3\x7d".toUTF8.toList),
              (["home", "size.json"], .file "\x7b\"default_width\":40,\"default_height\":30\x7d".toUTF8.toList),
              (["out"], .folder)] } }
    plugins := { reach := fun _ _ => .error "" } }

/-- The card with two further values for one variable, to be written elsewhere. -/
def cardInvocation : Invocation :=
  { template := "card.json"
    settings := [⟨.settingsFile, "size.json"⟩, ⟨.pairFile, "values.json"⟩, ⟨.pair, "x=2"⟩, ⟨.pair, " x = 7 "⟩,
      ⟨.output, "/out/card.pdf"⟩] }

/-- One way to ask for it. -/
def cardArgs : List String :=
  ["render", "--settings-file=size.json", "--vars-file=values.json", "card.json", "--var", "x=2", "--var= x = 7 ",
    "--out=/out/card.pdf"]

theorem spells_card : cardInvocation.Spells cardArgs := by
  have hout : OptionName.output.IsCalled "out" := .inr ⟨by decide, fun other => by cases other <;> decide⟩
  have hbefore : Setting.SpellAll [⟨.settingsFile, "size.json"⟩, ⟨.pairFile, "values.json"⟩]
      ["--settings-file=size.json", "--vars-file=values.json"] :=
    .cons (.joined (by decide) (.inl rfl)) (.cons (.joined (by decide) (.inl rfl)) .nil)
  have hafter : Setting.SpellAll [⟨.pair, "x=2"⟩, ⟨.pair, " x = 7 "⟩, ⟨.output, "/out/card.pdf"⟩]
      ["--var", "x=2", "--var= x = 7 ", "--out=/out/card.pdf"] :=
    .cons (.apart (by decide) (.inl rfl) (by decide))
      (.cons (.joined (by decide) (.inl rfl)) (.cons (.joined (by decide) hout) .nil))
  exact .among rfl hbefore hafter (by decide)

theorem knownTypes_nil [Platform] (around : Surroundings) (reach) :
    knownTypes { around := around, plugins := { reach := reach } } [] = Registry.builtinTable := by
  have hbuiltin : Registry.builtinAs IsKind.ofShape = Registry.builtinTable := Registry.builtin_eq
  rw [knownTypes, hbuiltin]
  rfl

end CommandLine

end PageTemplate
