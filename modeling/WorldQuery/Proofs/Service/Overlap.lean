import WorldQuery.Proofs.Discovery.Insertion
import WorldQuery.Service

/-!
# Rebuilds that overlap

A rebuild reads the definitions in the store, lets others go on, and installs the schema of what it
has read. `Rebuilds.next` takes one step of many rebuilds on a store into which rows are inserted
meanwhile. No step compares what it installs with what is installed, so a schema of an older store
can replace that of a newer one: `Rebuilds.goes_back`. `Rebuilds.run_installs` says that this takes
a rebuild that held its reading already when the newer schema was installed, and that without such a
rebuild no type is lost.
-/

namespace WorldQuery

def Discovery.ofDefinitions (tablePrefix : String) (entries : List (Datum × List Datum)) :
    Except Fault (List ObjectDef) :=
  match fault? entries with
  | some fault => throw fault
  | none => return objects (textEntries entries) tablePrefix

def Schema.ofDefinitions (tablePrefix : String)
    (reading : Except Fault (List (Datum × List Datum))) : Except SchemaFault Schema := do
  let storage ← (reading >>= Discovery.ofDefinitions tablePrefix).mapError SchemaFault.store
  (ofStorage storage tablePrefix).mapError SchemaFault.build

theorem Schema.ofDefinitions_definitions (s : Store) (tablePrefix : String) :
    Schema.ofDefinitions tablePrefix (Component.definitions s) = Schema.ofStore s tablePrefix := rfl

namespace Service

/-- How far a rebuild is. One that holds a reading knows how many insertions were before it. -/
inductive Task where
  | idle
  | begun
  | holding (version : ℕ) (reading : Except Fault (List (Datum × List Datum)))
  | done

/-- The version that a rebuild holds a reading of. -/
def Task.version? : Task → Option ℕ
  | .holding version _ => some version
  | _ => none

/-- A store with what it was before each insertion, the service on it, and its rebuilds. The version
of a store is the number of insertions before; `installed?` is the version that the schema of the
service was read from. -/
structure Rebuilds where
  past : List Store
  store : Store
  service : Service
  tasks : ℕ → Task
  installed? : Option ℕ

/-- A step of one rebuild, or an insertion. A request begins a rebuild if there is no schema. -/
inductive Step where
  | insert (table : String) (rows : List (List Datum))
  | start (task : ℕ)
  | request (task : ℕ)
  | read (task : ℕ)
  | install (task : ℕ)

def Step.task? : Step → Option ℕ
  | .insert .. => none
  | .start task | .request task | .read task | .install task => some task

theorem Task.version?_eq_some_iff {task : Task} {v : ℕ} :
    task.version? = some v ↔ ∃ reading, task = .holding v reading := by
  cases task <;> simp [version?]

theorem tablePrefix_adopt (service : Service) (built : Except SchemaFault Schema) :
    (service.adopt built).tablePrefix = service.tablePrefix := by
  cases built <;> rfl

theorem adopt_of_isNone {service : Service} {built : Except SchemaFault Schema}
    (h : built.toOption.isNone) : service.adopt built = service := by
  cases built with
  | error => rfl
  | ok => exact absurd h nofun

namespace Rebuilds

def initial (s : Store) (tablePrefix : String) : Rebuilds :=
  ⟨[], s, .start tablePrefix, fun _ => .idle, none⟩

/-- The number of insertions so far. -/
def version (x : Rebuilds) : ℕ := x.past.length

/-- All that the store has been, up to now. -/
def contents (x : Rebuilds) : List Store := x.past ++ [x.store]

def content? (x : Rebuilds) (version : ℕ) : Option Store := x.contents[version]?

def insert (x : Rebuilds) (table : String) (rows : List (List Datum)) : Rebuilds :=
  { x with past := x.contents, store := x.store.insert table rows }

def advance (x : Rebuilds) (task : ℕ) (state : Task) : Rebuilds :=
  { x with tasks := Function.update x.tasks task state }

/-- The end of a rebuild: a schema that was built is installed, whatever is installed. -/
def finish (x : Rebuilds) (task version : ℕ) (built : Except SchemaFault Schema) : Rebuilds :=
  { x.advance task .done with
    service := x.service.adopt built
    installed? :=
      match built with
      | .ok _ => some version
      | .error _ => x.installed? }

/-- Takes a step; one that is not due does nothing. -/
def next (x : Rebuilds) : Step → Rebuilds
  | .insert table rows => x.insert table rows
  | .start task =>
    match x.tasks task with
    | .idle => x.advance task .begun
    | _ => x
  | .request task =>
    match x.tasks task, x.service.schema? with
    | .idle, none => x.advance task .begun
    | _, _ => x
  | .read task =>
    match x.tasks task with
    | .begun => x.advance task (.holding x.version (Component.definitions x.store))
    | _ => x
  | .install task =>
    match x.tasks task with
    | .holding version reading =>
      x.finish task version (Schema.ofDefinitions x.service.tablePrefix reading)
    | _ => x

def run (x : Rebuilds) (steps : List Step) : Rebuilds := steps.foldl next x

/-- The type is a storage type of the schema of the service. -/
def Offers (x : Rebuilds) (type : String) : Prop :=
  ∃ schema, x.service.schema? = some schema ∧ type ∈ schema.storageTypes

/-- The schema of the service is that of a version. -/
def Serves (tablePrefix : String) (x : Rebuilds) (version : ℕ) : Prop :=
  ∃ content schema, x.content? version = some content ∧
    Schema.ofStore content tablePrefix = .ok schema ∧ x.service.schema? = some schema

/-- What rebuilds of a new service, and insertions, can lead to. -/
def Reached (s : Store) (tablePrefix : String) (x : Rebuilds) : Prop :=
  ∃ steps, (initial s tablePrefix).run steps = x

variable {x : Rebuilds} {tablePrefix : String} {v : ℕ} {content : Store}

/-! ### One step -/

/-- All that a step can do. -/
inductive Transition (x : Rebuilds) : Rebuilds → Prop where
  | stay : Transition x x
  | insert (table : String) (rows : List (List Datum)) : Transition x (x.insert table rows)
  | begun {task : ℕ} (idle : x.tasks task = .idle) : Transition x (x.advance task .begun)
  | read {task : ℕ} (begun : x.tasks task = .begun) :
    Transition x (x.advance task (.holding x.version (Component.definitions x.store)))
  | finished {task version : ℕ} {reading : Except Fault (List (Datum × List Datum))}
      (holding : x.tasks task = .holding version reading) :
    Transition x (x.finish task version (Schema.ofDefinitions x.service.tablePrefix reading))

theorem next_transition (x : Rebuilds) (step : Step) : Transition x (x.next step) := by
  cases step with
  | insert table rows => exact .insert table rows
  | start task =>
    simp only [next]
    split
    · next hidle => exact .begun hidle
    · exact .stay
  | request task =>
    simp only [next]
    split
    · next hidle _ => exact .begun hidle
    · exact .stay
  | read task =>
    simp only [next]
    split
    · next hbegun => exact .read hbegun
    · exact .stay
  | install task =>
    simp only [next]
    split
    · next hholding => exact .finished hholding
    · exact .stay

theorem tasks_next_of_ne {step : Step} {task : ℕ} (h : step.task? ≠ some task) :
    (x.next step).tasks task = x.tasks task := by
  have hother : ∀ {other : ℕ}, some other ≠ some task → ∀ state,
      (x.advance other state).tasks task = x.tasks task :=
    fun hne _ => Function.update_of_ne (fun heq => hne (congrArg some heq.symm)) _ _
  cases step with
  | insert => rfl
  | start | request | read | install =>
    simp only [next]
    split
    · exact hother h _
    · rfl

/-- The steps of others leave a rebuild where it is. -/
theorem tasks_run_of_forall_ne {task : ℕ} {steps : List Step}
    (h : ∀ step ∈ steps, step.task? ≠ some task) : (x.run steps).tasks task = x.tasks task := by
  induction steps generalizing x with
  | nil => rfl
  | cons first rest ih =>
    obtain ⟨hfirst, hrest⟩ := List.forall_mem_cons.mp h
    exact (ih hrest).trans (tasks_next_of_ne hfirst)

/-- What every step preserves holds after all of them. -/
theorem run_of_transition {P : Rebuilds → Prop} (step : ∀ x y, Transition x y → P x → P y)
    (h : P x) (steps : List Step) : P (x.run steps) := by
  induction steps generalizing x with
  | nil => exact h
  | cons first rest ih => exact ih (step _ _ (next_transition x first) h)

/-! ### What was read -/

/-- Readings and the installed schema are those of their versions of the store, which only grew. -/
structure Sound (tablePrefix : String) (x : Rebuilds) : Prop where
  tablePrefix_eq : x.service.tablePrefix = tablePrefix
  held : ∀ task v reading, x.tasks task = .holding v reading →
    ∃ content, x.content? v = some content ∧ reading = Component.definitions content
  installed : ∀ v, x.installed? = some v → x.Serves tablePrefix v
  grows : x.contents.Pairwise Component.Grows

theorem content?_version (x : Rebuilds) : x.content? x.version = some x.store := by
  simp [content?, contents, version]

theorem le_version (h : x.content? v = some content) : v ≤ x.version := by
  obtain ⟨hlt, -⟩ := List.getElem?_eq_some_iff.mp h
  simp only [contents, List.length_append, List.length_singleton] at hlt
  exact Nat.lt_succ_iff.mp hlt

theorem content?_insert (h : x.content? v = some content) (table : String)
    (rows : List (List Datum)) : (x.insert table rows).content? v = some content := by
  obtain ⟨hlt, -⟩ := List.getElem?_eq_some_iff.mp h
  exact (List.getElem?_append_left hlt).trans h

theorem content?_transition {y : Rebuilds} (hxy : Transition x y)
    (h : x.content? v = some content) : y.content? v = some content := by
  cases hxy with
  | insert table rows => exact content?_insert h table rows
  | stay | begun | read | finished => exact h

theorem Sound.grows_of_le (h : Sound tablePrefix x) {w : ℕ} {later : Store} (hle : v ≤ w)
    (hv : x.content? v = some content) (hw : x.content? w = some later) :
    Component.Grows content later := by
  obtain ⟨hvlt, rfl⟩ := List.getElem?_eq_some_iff.mp hv
  obtain ⟨hwlt, rfl⟩ := List.getElem?_eq_some_iff.mp hw
  rcases Nat.eq_or_lt_of_le hle with rfl | hlt
  · exact .refl _
  · exact List.pairwise_iff_getElem.mp h.grows v w hvlt hwlt hlt

theorem Sound.grows_store (h : Sound tablePrefix x) (hcontent : content ∈ x.contents) :
    Component.Grows content x.store := by
  rcases List.mem_append.mp hcontent with hpast | hstore
  · exact (List.pairwise_append.mp h.grows).2.2 content hpast x.store (List.mem_singleton_self _)
  · obtain rfl := List.mem_singleton.mp hstore
    exact .refl _

theorem sound_initial (s : Store) (tablePrefix : String) :
    Sound tablePrefix (initial s tablePrefix) where
  tablePrefix_eq := rfl
  held := by simp [initial]
  installed := by simp [initial]
  grows := by simp [initial, contents]

theorem holding_of_advance {task other : ℕ} {state : Task}
    {reading : Except Fault (List (Datum × List Datum))}
    (h : (x.advance task state).tasks other = .holding v reading) :
    state = .holding v reading ∨ x.tasks other = .holding v reading := by
  by_cases heq : other = task
  · subst heq
    exact Or.inl ((Function.update_self _ _ _).symm.trans h)
  · exact Or.inr ((Function.update_of_ne heq _ _).symm.trans h)

theorem holding_of_transition {y : Rebuilds} (hxy : Transition x y) {task : ℕ}
    {reading : Except Fault (List (Datum × List Datum))}
    (h : y.tasks task = .holding v reading) :
    x.tasks task = .holding v reading ∨
      v = x.version ∧ reading = Component.definitions x.store := by
  cases hxy with
  | stay | insert => exact Or.inl h
  | begun => exact Or.inl ((holding_of_advance h).resolve_left (by simp))
  | read =>
    refine (holding_of_advance h).symm.imp_right fun heq => ?_
    obtain ⟨rfl, rfl⟩ := Task.holding.inj heq
    exact ⟨rfl, rfl⟩
  | finished => exact Or.inl ((holding_of_advance h).resolve_left (by simp))

theorem installed_of_transition {y : Rebuilds} (hxy : Transition x y) (h : y.installed? = some v) :
    x.installed? = some v ∧ y.service = x.service ∨
      ∃ task reading schema, x.tasks task = .holding v reading ∧
        Schema.ofDefinitions x.service.tablePrefix reading = .ok schema ∧
        y.service = x.service.install schema := by
  cases hxy with
  | stay | insert | begun | read => exact Or.inl ⟨h, rfl⟩
  | @finished task version reading holding =>
    unfold finish at h ⊢
    cases hbuilt : Schema.ofDefinitions x.service.tablePrefix reading with
    | error fault =>
      rw [hbuilt] at h
      exact Or.inl ⟨h, rfl⟩
    | ok schema =>
      rw [hbuilt] at h
      obtain rfl : version = v := Option.some.inj h
      exact Or.inr ⟨task, reading, schema, holding, hbuilt, rfl⟩

theorem Sound.transition (h : Sound tablePrefix x) {y : Rebuilds} (hxy : Transition x y) :
    Sound tablePrefix y := by
  constructor
  case tablePrefix_eq =>
    rw [← h.tablePrefix_eq]
    cases hxy with
    | stay | insert | begun | read => rfl
    | finished => exact tablePrefix_adopt x.service _
  case held =>
    intro task v reading hholding
    rcases holding_of_transition hxy hholding with hheld | ⟨rfl, rfl⟩
    · obtain ⟨content, hcontent, rfl⟩ := h.held task v reading hheld
      exact ⟨content, content?_transition hxy hcontent, rfl⟩
    · exact ⟨x.store, content?_transition hxy (content?_version x), rfl⟩
  case installed =>
    intro v hinstalled
    rcases installed_of_transition hxy hinstalled with
      ⟨hx, hservice⟩ | ⟨task, reading, schema, hheld, hbuilt, hservice⟩
    · obtain ⟨content, schema, hcontent, hschema, hkept⟩ := h.installed v hx
      exact ⟨content, schema, content?_transition hxy hcontent, hschema, hservice ▸ hkept⟩
    · obtain ⟨content, hcontent, rfl⟩ := h.held task v reading hheld
      rw [Schema.ofDefinitions_definitions, h.tablePrefix_eq] at hbuilt
      exact ⟨content, schema, content?_transition hxy hcontent, hbuilt, hservice ▸ rfl⟩
  case grows =>
    cases hxy with
    | insert table rows =>
      refine List.pairwise_append.mpr ⟨h.grows, List.pairwise_singleton _ _, ?_⟩
      intro content hcontent other hother
      obtain rfl := List.mem_singleton.mp hother
      exact (h.grows_store hcontent).trans (Component.grows_insert x.store table rows)
    | stay | begun | read | finished => exact h.grows

theorem Sound.run (h : Sound tablePrefix x) (steps : List Step) : Sound tablePrefix (x.run steps) :=
  run_of_transition (fun _ _ hxy h => h.transition hxy) h steps

theorem Reached.sound {s : Store} (h : Reached s tablePrefix x) : Sound tablePrefix x := by
  obtain ⟨steps, rfl⟩ := h
  exact (sound_initial s tablePrefix).run steps

/-! ### Later steps -/

theorem content?_run (h : x.content? v = some content) (steps : List Step) :
    (x.run steps).content? v = some content :=
  run_of_transition (P := fun y => y.content? v = some content)
    (fun _ _ hxy h => content?_transition hxy h) h steps

theorem version_le_transition {y : Rebuilds} (hxy : Transition x y) : x.version ≤ y.version :=
  le_version (content?_transition hxy (content?_version x))

/-- What holds of a state `y` after `x`, if the schema of a version is installed in `x`. -/
structure Onward (version : ℕ) (x y : Rebuilds) : Prop where
  le : x.version ≤ y.version
  installed : ∃ v, y.installed? = some v ∧
    (version ≤ v ∨ ∃ task, (x.tasks task).version? = some v)
  held : ∀ task v, (y.tasks task).version? = some v →
    version ≤ v ∨ (x.tasks task).version? = some v

theorem installed_isSome_of_transition {y : Rebuilds} (hxy : Transition x y)
    (h : x.installed?.isSome) : y.installed?.isSome := by
  cases hxy with
  | stay | insert | begun | read => exact h
  | @finished _ _ reading =>
    unfold finish
    cases Schema.ofDefinitions x.service.tablePrefix reading with
    | error => exact h
    | ok => rfl

theorem Onward.transition {version : ℕ} (hversion : version ≤ x.version) {y z : Rebuilds}
    (h : Onward version x y) (hyz : Transition y z) : Onward version x z := by
  constructor
  case le => exact h.le.trans (version_le_transition hyz)
  case installed =>
    obtain ⟨v, hv, hsince⟩ := h.installed
    obtain ⟨w, hw⟩ := Option.isSome_iff_exists.mp
      (installed_isSome_of_transition hyz (Option.isSome_iff_exists.mpr ⟨v, hv⟩))
    refine ⟨w, hw, ?_⟩
    rcases installed_of_transition hyz hw with ⟨hy, -⟩ | ⟨task, reading, -, hholding, -⟩
    · obtain rfl := Option.some.inj (hy.symm.trans hv)
      exact hsince
    · exact (h.held task w (Task.version?_eq_some_iff.mpr ⟨reading, hholding⟩)).imp_right
        fun hx => ⟨task, hx⟩
  case held =>
    intro task w hz
    obtain ⟨reading, hholding⟩ := Task.version?_eq_some_iff.mp hz
    rcases holding_of_transition hyz hholding with hy | ⟨rfl, -⟩
    · exact h.held task w (Task.version?_eq_some_iff.mpr ⟨reading, hy⟩)
    · exact Or.inl (hversion.trans h.le)

theorem Sound.onward_run (h : Sound tablePrefix x) {version : ℕ}
    (hx : x.installed? = some version) (later : List Step) :
    Onward version x (x.run later) := by
  obtain ⟨_, _, hcontent, -⟩ := h.installed version hx
  have hversion : version ≤ x.version := le_version hcontent
  have hstart : Onward version x x := ⟨le_rfl, ⟨version, hx, Or.inl le_rfl⟩, fun _ _ => Or.inr⟩
  exact run_of_transition (fun _ _ hyz hy => hy.transition hversion hyz) hstart later

/-! ### What is installed -/

/-- Only the end of a rebuild changes the service: it installs the schema of what was read. -/
theorem Sound.next_serves (h : Sound tablePrefix x) (step : Step) :
    (x.next step).service = x.service ∨ ∃ task v, step = .install task ∧
      (x.tasks task).version? = some v ∧ (x.next step).Serves tablePrefix v := by
  cases step with
  | insert => exact Or.inl rfl
  | start | request | read =>
    simp only [next]
    split <;> exact Or.inl rfl
  | install task =>
    cases hstate : x.tasks task with
    | idle | begun | done => simp [next, hstate]
    | holding v reading =>
      cases hbuilt : Schema.ofDefinitions x.service.tablePrefix reading with
      | error fault => simp [next, hstate, finish, hbuilt, adopt]
      | ok schema =>
        have hinstalled : (x.next (.install task)).installed? = some v := by
          simp [next, hstate, finish, hbuilt]
        have hsound := h.transition (next_transition x (.install task))
        exact Or.inr ⟨task, v, rfl, by rw [hstate, Task.version?], hsound.installed v hinstalled⟩

theorem Sound.offers_discovered (h : Sound tablePrefix x) {version : ℕ}
    (hx : x.Serves tablePrefix version) (hle : v ≤ version) (hcontent : x.content? v = some content)
    {found : List ObjectDef} (hfound : Discovery.ofStore content tablePrefix = .ok found)
    {name : String} (hname : name ∈ found.filterMap ObjectDef.declaredName?) :
    x.Offers (Name.typeName name) := by
  obtain ⟨later, schema, hlater, hschema, hserved⟩ := hx
  exact ⟨schema, hserved, Schema.typeName_mem_storageTypes (h.grows_of_le hle hcontent hlater)
    hfound hschema hname⟩

/-- Later steps keep the types on offer, unless they lead to the schema of an older version. -/
theorem Sound.offers_run (h : Sound tablePrefix x) {later : List Step} {w : ℕ} (hle : v ≤ w)
    (hv : x.Serves tablePrefix v) (hw : (x.run later).Serves tablePrefix w) {type : String}
    (htype : x.Offers type) : (x.run later).Offers type := by
  obtain ⟨content, schema, hcontent, hschema, hserved⟩ := hv
  obtain ⟨content', schema', hcontent', hschema', hserved'⟩ := hw
  obtain ⟨offered, hoffered, hmem⟩ := htype
  obtain rfl := Option.some.inj (hoffered.symm.trans hserved)
  have hgrows := (h.run later).grows_of_le hle (content?_run hcontent later) hcontent'
  exact ⟨schema', hserved', Schema.storageTypes_subset hgrows hschema hschema' hmem⟩

theorem run_rebuild {task : ℕ} (h : x.tasks task = .idle) :
    (x.run [.start task, .read task, .install task]).service = x.service.afterRebuild x.store := by
  simp [run, next, h, advance, finish, afterRebuild, rebuild,
    ← Schema.ofDefinitions_definitions]

/-- Once the schema of a version is installed, only a rebuild that held its reading before can
install that of an older one. What is discovered in the installed version, or in an older one, is on
offer, and if no rebuild holds an older reading then it stays so. -/
theorem run_installs {s : Store} {version : ℕ} (hx : Reached s tablePrefix x)
    (h : x.installed? = some version) (later : List Step) :
    (∀ step, ((x.run later).next step).service = (x.run later).service ∨
      ∃ task v, step = .install task ∧ ((x.run later).tasks task).version? = some v ∧
        ((x.run later).next step).Serves tablePrefix v ∧
        (version ≤ v ∨ (x.tasks task).version? = some v)) ∧
    (∀ v content found, v ≤ version → x.content? v = some content →
      Discovery.ofStore content tablePrefix = .ok found →
        ∀ name ∈ found.filterMap ObjectDef.declaredName?, x.Offers (Name.typeName name)) ∧
    ((∀ task v, (x.tasks task).version? = some v → version ≤ v) →
      (∃ v, version ≤ v ∧ (x.run later).Serves tablePrefix v) ∧
        ∀ type, x.Offers type → (x.run later).Offers type) := by
  have hsound := hx.sound
  have honward := hsound.onward_run h later
  have hserves := hsound.installed version h
  refine ⟨fun step => ?_, fun v content found hle hcontent hfound name hname => ?_, fun hheld => ?_⟩
  · refine ((hsound.run later).next_serves step).imp_right ?_
    rintro ⟨task, v, hstep, hholding, hnext⟩
    exact ⟨task, v, hstep, hholding, hnext, honward.held task v hholding⟩
  · exact hsound.offers_discovered hserves hle hcontent hfound hname
  · obtain ⟨v, hv, hsince⟩ := honward.installed
    have hle : version ≤ v := by
      rcases hsince with hle | ⟨task, hholding⟩
      · exact hle
      · exact hheld task v hholding
    have hlater := (hsound.run later).installed v hv
    exact ⟨⟨v, hle, hlater⟩, fun type => hsound.offers_run hle hserves hlater⟩

instance decidableOffers (x : Rebuilds) (type : String) : Decidable (x.Offers type) :=
  match h : x.service.schema? with
  | none => isFalse (by simp [Offers, h])
  | some schema => decidable_of_iff (type ∈ schema.storageTypes) (by simp [Offers, h])

section Worlds

def noComponents : Store := Store.empty.create Component.tableName Component.columns []

/-- The rows of components that keep a number, each by its id and its name. -/
def componentRows (components : List (String × String)) : List (List Datum) :=
  components.map fun (id, name) =>
    [.text id, .text name, .text "0x9", .text "0x8", .text "0x7", .text "x: Felt", .int 1]

def insertion (components : List (String × String)) : Step :=
  .insert Component.tableName (componentRows components)

/-- After two rebuilds in turn nothing takes away what the second one discovered. -/
theorem run_installs_in_turns :
    let x := (initial noComponents "storage_").run [.start 0, .read 0, .install 0,
      insertion [("0x1", "Position")], .request 1, .start 2, .read 2, .install 2]
    x.installed? = some 1 ∧ ∀ later, (x.run later).Offers "Position" := by
  intro x
  have hinstalled : x.installed? = some 1 := by decide +kernel
  have hheld : ∀ task v, (x.tasks task).version? = some v → 1 ≤ v := by
    intro task v h
    have hnone : (x.tasks task).version? = none := by
      by_cases htask : task < 3
      · have hfew : ∀ task < 3, (x.tasks task).version? = none := by decide +kernel
        exact hfew task htask
      · have hidle : x.tasks task = .idle :=
          tasks_run_of_forall_ne (by simp [insertion, Step.task?]; omega)
        rw [hidle]
        rfl
    exact absurd (hnone.symm.trans h) nofun
  refine ⟨hinstalled, fun later => ?_⟩
  obtain ⟨-, -, hkept⟩ := run_installs ⟨_, rfl⟩ hinstalled later
  exact (hkept hheld).2 "Position" (by decide +kernel)

/-- Components of which two are of one type, so that there is no schema. -/
def clashing : List (String × String) :=
  [("0x1", "Health"), ("0x2", "Position"), ("0x3", "position")]

def clashingDefinitions : List (Datum × List Datum) :=
  [(.text "Health", [.text "x: Felt"]), (.text "Position", [.text "x: Felt"]),
    (.text "position", [.text "x: Felt"])]

theorem definitions_clashing :
    Component.definitions (noComponents.insert Component.tableName (componentRows clashing)) =
      .ok clashingDefinitions :=
  Component.definitions_eq_ok_iff.mpr
    ⟨_, Component.rowsInOrder_of_sorted rfl rfl rfl rfl (by decide), rfl⟩

/-- The schema of an older reading replaces that of a newer one, and its type is gone. A rebuild
that fails does not offer what it discovered. -/
theorem goes_back :
    (let x := (initial noComponents "storage_").run [.start 0, .read 0,
      insertion [("0x1", "Position")], .start 1, .read 1, .install 1]
    (x.installed? = some 1 ∧ x.Offers "Position") ∧
      (x.next (.install 0)).installed? = some 0 ∧ ¬(x.next (.install 0)).Offers "Position") ∧
    (let x := (initial noComponents "storage_").run [.start 0, .read 0, .install 0,
      insertion clashing]
    (∃ found, Discovery.ofStore x.store "storage_" = .ok found ∧
      "Health" ∈ found.filterMap ObjectDef.declaredName?) ∧
      ¬(x.run [.start 1, .read 1, .install 1]).Offers "Health") := by
  refine ⟨by decide +kernel, ?_⟩
  intro x
  have hread : Component.definitions x.store = .ok clashingDefinitions := definitions_clashing
  constructor
  · exact ⟨_, Discovery.ofStore_eq_ok_iff.mpr ⟨_, hread, by decide +kernel, rfl⟩, by decide +kernel⟩
  · have hkept : (x.run [.start 1, .read 1, .install 1]).service = x.service := by
      rw [run_rebuild (tasks_run_of_forall_ne (by decide)), afterRebuild, rebuild,
        ← Schema.ofDefinitions_definitions, hread]
      exact adopt_of_isNone (by decide +kernel)
    have hnot : ¬x.Offers "Health" := by decide +kernel
    rwa [Offers, hkept]

end Worlds

end Rebuilds

end Service

end WorldQuery
