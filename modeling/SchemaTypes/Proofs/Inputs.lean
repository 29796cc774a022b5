import SchemaTypes.CommandLine.Run
import SchemaTypes.Proofs.Extension
import SchemaTypes.Proofs.FileTermination
import SchemaTypes.Proofs.InPlace

/-! What a command makes of its inputs. An input is compiled by way of a node that refers to it, and a
name without a hash is not changed on that way: the document it leads to is compiled as it is when a
compilation starts there. -/
namespace SchemaTypes

/-! ## References to whole documents -/

section

variable {loader : Loader} {registry : Registry} {href : String} {ty : Ty}

/-- A compilation that comes to a document by a reference ends like one that starts there. -/
theorem CompilesTo.reference_ok_iff (plain : '#' ∉ href.toList) :
    CompilesTo loader (.inline (.obj [("$ref", .str href)])) registry (.ok ty) ↔
      CompilesTo loader (.location (Location.parse href)) registry (.ok ty) := by
  have elsewhere := Reference.localFragment?_plain plain
  have whole := Reference.split_plain plain
  have apart : (Location.parse href).key ∉ (State.start registry).opened := List.not_mem_nil
  have alike {state state' : State} {root : Json} {depth : Nat}
      (compiled : (Node.compile loader depth root state).1 = .ok ty)
      (start : state.scope = .ofRegistry registry) (start' : state'.scope = .ofRegistry registry)
      (document : state'.position.document = state.position.document)
      (opened : state'.opened = state.opened) :
      (Node.compile loader depth root state').1 = .ok ty :=
    Node.compile_of_extended (fun _ _ => id) (fun _ _ => id) compiled start start' document opened
  constructor
  · intro compiled
    obtain ⟨depth, after, ran⟩ := CompilesTo.inline_ok_iff.mp compiled
    have ended := congrArg Prod.fst ran
    cases depth with
    | zero => cases ended
    | succ depth =>
      obtain ⟨root, loaded⟩ := Node.loaded_of_compile_reference elsewhere whole rfl ended
      rw [Node.compile_reference_fst elsewhere whole rfl apart loaded] at ended
      exact (CompilesTo.location_iff loaded).mpr ⟨by simp, depth, alike ended rfl rfl rfl rfl⟩
  · intro compiled
    obtain ⟨budget, ran⟩ := compiled.2
    obtain ⟨root, found⟩ := Compilation.loaded_of_ok ran
    have loaded : loader.load (Location.parse href) = .ok root := found
    obtain ⟨-, depth, ended⟩ := (CompilesTo.location_iff loaded).mp compiled
    refine CompilesTo.inline_iff.mpr ⟨by simp, depth + 1, ?_⟩
    rw [Node.compile_reference_fst elsewhere whole rfl apart loaded]
    exact alike ended rfl rfl rfl rfl

end

namespace CommandLine

variable {tree : FileTree} {arguments : Arguments} {input : String} {ty : Ty}

/-- A text that names a file: it is no URL and no pattern, and it has no hash. -/
structure NamesFile (input : String) : Prop where
  place : isUrl input = false
  literal : PathPattern.isPattern input = false
  plain : '#' ∉ input.toList

theorem NamesFile.parse (named : NamesFile input) : Location.parse input = .path input := by
  have place := named.place
  unfold isUrl at place
  split at place
  · cases place
  · next path found =>
    have text : (Location.parse input).text = input ∨ ∃ url, Location.parse input = .url url := by
      unfold Location.parse
      split
      · split
        · split
          · exact .inr ⟨_, rfl⟩
          · exact .inl rfl
        · exact .inl rfl
      · exact .inl rfl
    rcases text with text | ⟨url, other⟩
    · rw [found] at text ⊢
      exact congrArg _ text
    · rw [found] at other
      cases other

/-- An input is compiled as its document is. -/
theorem compileInput_ok_iff (named : NamesFile input) :
    (compileInput tree none input).outcome = .ok ty ↔
      compile tree.loader (.location (.path input)) .empty = .ok ty := by
  rw [← named.parse, ← FileTree.compilesTo_iff, ← CompilesTo.reference_ok_iff named.plain,
    FileTree.compilesTo_iff]
  rfl

/-! ## Commands -/

theorem mapM_ok_iff {ε α β : Type} {step : α → Except ε β} {as : List α} {bs : List β} :
    as.mapM step = .ok bs ↔ List.Forall₂ (fun a b => step a = .ok b) as bs := by
  induction as generalizing bs with
  | nil => cases bs <;> simp [pure, Except.pure]
  | cons a rest ih =>
    rw [List.mapM_cons]
    constructor
    · intro ended
      obtain ⟨b, first, ended⟩ := Except.ok_of_bind ended
      obtain ⟨others, rest, last⟩ := Except.ok_of_bind ended
      cases last
      exact .cons first (ih.mp rest)
    · intro each
      cases each with
      | cons first rest =>
        rw [first, ih.mpr rest]
        rfl

/-- An argument that names a file stands for itself. -/
theorem resolveInputs_of_files {texts : List String} (named : ∀ text ∈ texts, NamesFile text) :
    resolveInputs tree texts = .ok texts := by
  have single : texts.mapM (inputsOf tree) = .ok (texts.map ([·])) := by
    refine mapM_ok_iff.mpr (List.forall₂_map_right_iff.mpr (List.forall₂_same.mpr ?_))
    intro text member
    unfold inputsOf
    rw [(named text member).literal]
    simp
  unfold resolveInputs
  rw [single]
  simp [Except.map, ← List.flatMap_def]

theorem types_ok {inputs : List String} {compiled : List Ty}
    (each : List.Forall₂ (fun input ty => (compileInput tree none input).outcome = .ok ty)
      inputs compiled) :
    types (inputs.map fun input => (input, compileInput tree none input)) =
      .ok (inputs.zip compiled) := by
  refine mapM_ok_iff.mpr (List.forall₂_map_left_iff.mpr ?_)
  induction each with
  | nil => exact .nil
  | cons first _ ih =>
    refine .cons ?_ ih
    dsimp only
    rw [first]

theorem outcome_of_types {inputs : List String} {pairs : List (String × Ty)}
    (ended : types (inputs.map fun input => (input, compileInput tree none input)) = .ok pairs)
    {input : String} (member : input ∈ inputs) :
    ∃ ty, (compileInput tree none input).outcome = .ok ty := by
  have each := List.forall₂_map_left_iff.mp (mapM_ok_iff.mp ended)
  obtain ⟨pair, reported⟩ := Node.exists_related each member
  dsimp only at reported
  split at reported
  · next ty compiled => exact ⟨ty, compiled⟩
  · cases reported

theorem exists_types {inputs : List String} {compiles : String → Ty → Prop}
    (each : ∀ input ∈ inputs, ∃ ty, compiles input ty) : ∃ types, List.Forall₂ compiles inputs types := by
  induction inputs with
  | nil => exact ⟨[], .nil⟩
  | cons input rest ih =>
    obtain ⟨⟨ty, first⟩, others⟩ := List.forall_mem_cons.mp each
    obtain ⟨types, others⟩ := ih others
    exact ⟨ty :: types, .cons first others⟩

/-- What a command prints of one type, when it prints JSON. -/
def Command.rendering : Command → Option (Ty → Json)
  | .schema => some Ty.schema
  | .dataModel => none
  | .ir => some Ty.toJson

variable {render : Ty → Json}

theorem outputText_of_rendering (command : arguments.command.rendering = some render)
    (types : List (String × Ty)) :
    outputText arguments types =
      (keyed (types.map fun pair => (pair.1, render pair.2))).pretty := by
  unfold outputText
  cases chosen : arguments.command <;> rw [chosen] at command <;> cases command <;> rfl

/-- Several values stand under the names of their inputs, in order. -/
theorem keyed_zip {inputs : List String} {values : List Json} (same : inputs.length = values.length)
    (several : 1 < values.length) (distinct : inputs.Nodup) :
    keyed (inputs.zip values) = .obj (inputs.zip values) := by
  have apart : (Keyed.keys (inputs.zip values)).Nodup := by
    rwa [Keyed.keys, List.map_fst_zip (Nat.le_of_eq same)]
  have many : 1 < (inputs.zip values).length := by
    rw [List.length_zip]
    omega
  unfold keyed
  split
  · next lone =>
    rw [lone] at many
    exact absurd many (by simp)
  · rw [Keyed.ofPairs_of_nodup apart]

section

variable (pointer : arguments.pointer = none) (out : arguments.out = none)
  (named : ∀ input ∈ arguments.inputs, NamesFile input)

include pointer named

theorem output_of_files : output tree arguments =
    (types (arguments.inputs.map fun input => (input, compileInput tree none input))).map
      (outputText arguments) := by
  unfold output compilations
  rw [resolveInputs_of_files named, pointer]
  rfl

include out

theorem run_of_compiled {compiled : List Ty} (each : List.Forall₂
      (fun input ty => compile tree.loader (.location (.path input)) .empty = .ok ty)
      arguments.inputs compiled) :
    run tree arguments = ⟨.ok (), outputText arguments (arguments.inputs.zip compiled) ++ "\n", tree⟩ := by
  have outcomes : List.Forall₂ (fun input ty => (compileInput tree none input).outcome = .ok ty)
      arguments.inputs compiled :=
    ((List.forall₂_and_left _ _).mpr ⟨named, each⟩).imp fun _ _ ⟨name, ran⟩ =>
      (compileInput_ok_iff name).mpr ran
  unfold run
  rw [output_of_files pointer named, types_ok outcomes, out]
  rfl

/-- A command on files succeeds exactly when all of them compile. -/
theorem run_ok_iff : (run tree arguments).outcome = .ok () ↔ ∀ input ∈ arguments.inputs,
    ∃ ty, compile tree.loader (.location (.path input)) .empty = .ok ty := by
  constructor
  · intro ended input member
    cases produced : types (arguments.inputs.map fun input => (input, compileInput tree none input)) with
    | error reason =>
      unfold run at ended
      rw [output_of_files pointer named, produced] at ended
      cases ended
    | ok pairs =>
      obtain ⟨ty, compiled⟩ := outcome_of_types produced member
      exact ⟨ty, (compileInput_ok_iff (named input member)).mp compiled⟩
  · intro each
    obtain ⟨compiled, each⟩ := exists_types each
    rw [run_of_compiled pointer out named each]

end

/-- A command that prints JSON succeeds on files exactly when all of them compile, each by itself and
where nothing is known beforehand. It prints the type of one file by itself, and those of several under
the names that were given, in order. -/
theorem run_prints_files {tree : FileTree} {arguments : Arguments} {render : Ty → Json}
    (command : arguments.command.rendering = some render) (pointer : arguments.pointer = none)
    (out : arguments.out = none) (named : ∀ input ∈ arguments.inputs, NamesFile input) :
    ((run tree arguments).outcome = .ok () ↔ ∀ input ∈ arguments.inputs,
      ∃ ty, compile tree.loader (.location (.path input)) .empty = .ok ty) ∧
    ∀ types : List Ty,
      List.Forall₂ (fun input ty => compile tree.loader (.location (.path input)) .empty = .ok ty)
        arguments.inputs types →
      (∀ ty, types = [ty] → (run tree arguments).output = (render ty).pretty ++ "\n") ∧
      (1 < types.length → arguments.inputs.Nodup → (run tree arguments).output =
        (Json.obj (arguments.inputs.zip (types.map render))).pretty ++ "\n") := by
  refine ⟨run_ok_iff pointer out named, fun types each => ?_⟩
  have rendered : (arguments.inputs.zip types).map (fun pair => (pair.1, render pair.2)) =
      arguments.inputs.zip (types.map render) := by
    rw [List.zip_map_right]
    rfl
  rw [run_of_compiled pointer out named each, outputText_of_rendering command, rendered]
  constructor
  · rintro ty rfl
    obtain ⟨input, rest, -, none, single⟩ := List.forall₂_cons_right_iff.mp each
    rw [single, List.forall₂_nil_right_iff.mp none]
    rfl
  · intro several distinct
    have same : arguments.inputs.length = (types.map render).length := by
      rw [List.length_map, each.length_eq]
    rw [keyed_zip same (by rwa [List.length_map]) distinct]

def numberFiles : FileTree where
  entries := [
    (["a.json"], .file "\x7b\"type\":\"number\"\x7d".toUTF8.toList),
    (["b.json"], .file "\x7b\"$ref\":\"a.json\"\x7d".toUTF8.toList)]
  home := []

/-- The arguments of a command that prints the types of inputs as JSON. -/
def printing (inputs : List String) : Arguments where
  command := .ir
  inputs := inputs
  pointer := none
  timeout := 30
  rootName := "Root"
  out := none
  verbose := false

theorem run_prints_files_numberFiles :
    (run numberFiles (printing ["a.json", "b.json"])).outcome = .ok () ∧
    (run numberFiles (printing ["a.json", "b.json"])).output =
      (Json.obj [("a.json", (Ty.leaf .number).toJson), ("b.json", (Ty.leaf .number).toJson)]).pretty
        ++ "\n" ∧
    (run numberFiles (printing ["b.json"])).output = (Ty.leaf .number).toJson.pretty ++ "\n" := by
  have first : NamesFile "a.json" := ⟨by decide +kernel, by decide +kernel, by decide⟩
  have second : NamesFile "b.json" := ⟨by decide +kernel, by decide +kernel, by decide⟩
  have number : compile numberFiles.loader (.location (.path "a.json")) .empty = .ok (.leaf .number) :=
    (Ty.Told.leaf .number).ok (by decide +kernel)
  have again : compile numberFiles.loader (.location (.path "b.json")) .empty = .ok (.leaf .number) :=
    (Ty.Told.leaf .number).ok (by decide +kernel)
  have named : ∀ input ∈ ["a.json", "b.json"], NamesFile input :=
    List.forall_mem_cons.mpr ⟨first, List.forall_mem_singleton.mpr second⟩
  obtain ⟨succeeds, prints⟩ :=
    @run_prints_files numberFiles (printing ["a.json", "b.json"]) Ty.toJson rfl rfl rfl named
  obtain ⟨-, alone⟩ := @run_prints_files numberFiles (printing ["b.json"]) Ty.toJson rfl rfl rfl
    (List.forall_mem_singleton.mpr second)
  have compiled : ∀ input ∈ ["a.json", "b.json"], ∃ ty,
      compile numberFiles.loader (.location (.path input)) .empty = .ok ty :=
    List.forall_mem_cons.mpr ⟨⟨_, number⟩, List.forall_mem_singleton.mpr ⟨_, again⟩⟩
  refine ⟨succeeds.mpr compiled, ?_, ?_⟩
  · exact (prints [.leaf .number, .leaf .number] (.cons number (.cons again .nil))).2 (by decide)
      (by decide)
  · exact (alone [.leaf .number] (.cons again .nil)).1 _ rfl

/-- A file with a hash in its name. -/
def hashFile : FileTree where
  entries := [(["a#b.json"], .file "\x7b\"type\":\"number\"\x7d".toUTF8.toList)]
  home := []

/-- What stands behind the hash is taken for a part of another file, so the file is not found. -/
theorem run_mistakes_hash :
    isUrl "a#b.json" = false ∧ PathPattern.isPattern "a#b.json" = false ∧
      compile hashFile.loader (.location (.path "a#b.json")) .empty = .ok (.leaf .number) ∧
      (run hashFile (printing ["a#b.json"])).outcome ≠ .ok () := by
  refine ⟨by decide +kernel, by decide +kernel, (Ty.Told.leaf .number).ok (by decide +kernel), ?_⟩
  intro succeeded
  have failed : (run hashFile (printing ["a#b.json"])).outcome.isOk = false := by decide +kernel
  rw [succeeded] at failed
  cases failed

end CommandLine

end SchemaTypes
