import SchemaTypes.Proofs.Joint

/-! Records merged one after the other, told by the fields that stand in them. What a merged record
says of a name is what all fields of that name come to together, and only a name that stands in the
records more than once can keep them apart. -/
namespace SchemaTypes

namespace Field

/-- The fields of one name. -/
def named (fields : List Field) (name : String) : List Field := fields.filter (·.name == name)

/-- Fields of one name, merged one after the other. -/
def Gathers (occurrences : List Field) (field : Field) : Prop :=
  ∃ first others, occurrences = first :: others ∧ others.foldlM Field.merge first = .ok field

variable {fields added occurrences : List Field} {field other next : Field} {key : String}

theorem mem_named : field ∈ named fields key ↔ field ∈ fields ∧ field.name = key := by
  simp [named]

theorem named_append : named (fields ++ added) key = named fields key ++ named added key :=
  List.filter_append ..

theorem named_singleton : named [next] key = if next.name = key then [next] else [] := by
  simp [named, List.filter_cons]

theorem named_eq_nil : named fields key = [] ↔ key ∉ fields.map (·.name) := by
  simp [named]

theorem named_of_nodup (distinct : (fields.map (·.name)).Nodup) (member : field ∈ fields) :
    named fields field.name = [field] := by
  obtain ⟨before, after, rfl⟩ := List.append_of_mem member
  rw [List.map_append, List.map_cons, List.nodup_middle, List.nodup_cons, List.mem_append] at distinct
  obtain ⟨left, right⟩ := not_or.mp distinct.1
  rw [List.append_cons, named_append, named_append, named_singleton, if_pos rfl,
    named_eq_nil.mpr left, named_eq_nil.mpr right]
  rfl

theorem forall_named {holds : Field → Prop} (key : String) (all : ∀ field ∈ fields, holds field) :
    ∀ field ∈ named fields key, holds field :=
  fun field member => all field (mem_named.mp member).1

theorem known_of_several (several : 2 ≤ (named fields key).length) : key ∈ fields.map (·.name) := by
  by_contra absent
  rw [named_eq_nil.mpr absent] at several
  exact absurd several (by simp)

namespace Gathers

theorem single (field : Field) : Gathers [field] field := ⟨field, [], rfl, rfl⟩

theorem append_iff (gathers : Gathers occurrences field) :
    Gathers (occurrences ++ added) other ↔ added.foldlM Field.merge field = .ok other := by
  obtain ⟨first, others, rfl, ran⟩ := gathers
  have continues : (others ++ added).foldlM Field.merge first =
      added.foldlM Field.merge field := by
    rw [List.foldlM_append, ran]
    rfl
  constructor
  · rintro ⟨start, rest, same, ended⟩
    obtain ⟨rfl, rfl⟩ := List.cons.inj same
    exact continues.symm.trans ended
  · intro ended
    exact ⟨first, others ++ added, rfl, continues.trans ended⟩

theorem concat_iff (gathers : Gathers occurrences field) :
    Gathers (occurrences ++ [next]) other ↔ field.merge next = .ok other := by
  rw [gathers.append_iff, List.foldlM_cons]
  exact iff_of_eq (congrArg (· = _) (bind_pure _))

theorem unique (gathers : Gathers occurrences field) (gathers' : Gathers occurrences other) :
    field = other := by
  obtain ⟨first, others, rfl, ran⟩ := gathers
  obtain ⟨first', others', same, ran'⟩ := gathers'
  obtain ⟨rfl, rfl⟩ := List.cons.inj same
  exact Except.ok.inj (ran.symm.trans ran')

/-- Fields are merged up to any of them if all are. -/
theorem of_append (gathers : Gathers (occurrences ++ added) field) (some : occurrences ≠ []) :
    ∃ before, Gathers occurrences before := by
  obtain ⟨first, others, rfl⟩ := List.exists_cons_of_ne_nil some
  obtain ⟨start, rest, same, ran⟩ := gathers
  obtain ⟨rfl, rfl⟩ := List.cons.inj same
  rw [List.append_eq, List.foldlM_append] at ran
  obtain ⟨before, reached, -⟩ := Except.ok_of_bind ran
  exact ⟨before, first, others, rfl, reached⟩

theorem not_clash (gathers : Gathers occurrences field) (several : 2 ≤ occurrences.length)
    (clear : ∀ field ∈ occurrences, field.Unambiguous) : ¬ Clash occurrences := by
  obtain ⟨first, others, rfl, ran⟩ := gathers
  have more : others ≠ [] := by
    rintro rfl
    simp at several
  obtain ⟨agree, window, -⟩ := (foldlM_merge_iff more).mp ran
  exact agree.not_clash window clear

end Gathers

/-- Several fields of one name that do not come together have nothing in common. -/
theorem clash_of_not_gathers (several : 2 ≤ occurrences.length)
    (apart : ∀ field, ¬ Gathers occurrences field) : Clash occurrences := by
  obtain ⟨first, second, rest, rfl⟩ := exists_cons_cons several
  by_contra together
  obtain ⟨agree, window⟩ := agree_of_not_clash together
  exact apart _ ⟨first, second :: rest, rfl,
    (foldlM_merge_iff (List.cons_ne_nil second rest)).mpr ⟨agree, window, rfl⟩⟩

end Field

namespace Record

variable {fields merged all : List Field} {next : Field}

/-- The fields of a merged record: one for each name, in the order in which the names came up, and
made of all fields of its name. -/
structure Gathered (all fields : List Field) : Prop where
  names : fields.map (·.name) = (all.map (·.name)).eraseDups
  distinct : (fields.map (·.name)).Nodup
  each : ∀ field ∈ fields, Field.Gathers (Field.named all field.name) field

theorem eraseDups_concat (names : List String) (name : String) :
    (names ++ [name]).eraseDups =
      if name ∈ names then names.eraseDups else names.eraseDups ++ [name] := by
  rw [List.eraseDups_append]
  split
  · next known => simp [List.removeAll, known]
  · next fresh => simp [List.removeAll, fresh, List.eraseDups_cons]

theorem Gathered.mem_names {name : String} (gathered : Gathered all fields) :
    name ∈ fields.map (·.name) ↔ name ∈ all.map (·.name) := by
  rw [gathered.names, List.mem_eraseDups]

theorem Gathered.exists_of_mem {name : String} (gathered : Gathered all fields)
    (known : name ∈ all.map (·.name)) :
    ∃ field ∈ fields, field.name = name ∧ Field.Gathers (Field.named all name) field := by
  obtain ⟨field, member, rfl⟩ := List.mem_map.mp (gathered.mem_names.mpr known)
  exact ⟨field, member, rfl, gathered.each field member⟩

theorem Gathered.step (gathered : Gathered all fields)
    (joined : mergeField fields next = .ok merged) : Gathered (all ++ [next]) merged := by
  have others {field : Field} (gathers : Field.Gathers (Field.named all field.name) field)
      (differ : next.name ≠ field.name) :
      Field.Gathers (Field.named (all ++ [next]) field.name) field := by
    rwa [Field.named_append, Field.named_singleton, if_neg differ, List.append_nil]
  rcases mergeField_ok joined with
    ⟨absent, rfl⟩ | ⟨before, field, after, both, rfl, -, same, merges, rfl⟩
  · have fresh : next.name ∉ all.map (·.name) := gathered.mem_names.not.mp absent
    refine ⟨?_, ?_, List.forall_mem_append.mpr ⟨fun field member => ?_, ?_⟩⟩
    · rw [List.map_append, List.map_append, List.map_singleton, eraseDups_concat, if_neg fresh,
        gathered.names]
    · rw [List.map_append]
      exact gathered.distinct.append (List.nodup_singleton _) (by simpa using absent)
    · refine others (gathered.each field member) fun same => absent ?_
      exact same ▸ List.mem_map_of_mem member
    · refine List.forall_mem_singleton.mpr ?_
      rw [Field.named_append, Field.named_eq_nil.mpr fresh, Field.named_singleton, if_pos rfl]
      exact .single next
  · have name : both.name = field.name := (Field.merge_ok merges).1
    have names : (before ++ both :: after).map (·.name) =
        (before ++ field :: after).map (·.name) := by
      simp [name]
    have here : field ∈ before ++ field :: after :=
      List.mem_append_right _ List.mem_cons_self
    have known : next.name ∈ all.map (·.name) :=
      gathered.mem_names.mp (same ▸ List.mem_map_of_mem here)
    refine ⟨?_, names ▸ gathered.distinct, ?_⟩
    · rw [names, gathered.names, List.map_append, List.map_singleton, eraseDups_concat, if_pos known]
    · -- Names differ, so that only the field in the middle takes part.
      have apart : ∀ other ∈ before ++ after, next.name ≠ other.name := by
        intro other member equal
        have distinct := gathered.distinct
        rw [List.map_append, List.map_cons, List.nodup_middle, ← List.map_append] at distinct
        exact (List.nodup_cons.mp distinct).1
          (same.trans equal ▸ List.mem_map_of_mem member)
      intro other member
      rcases List.mem_append.mp member with left | member
      · exact others (gathered.each other (List.mem_append_left _ left))
          (apart other (List.mem_append_left _ left))
      rcases List.mem_cons.mp member with rfl | right
      · rw [name, same, Field.named_append, Field.named_singleton, if_pos rfl, ← same]
        exact (gathered.each field here).concat_iff.mpr merges
      · exact others (gathered.each other (List.mem_append_right _ (List.mem_cons_of_mem _ right)))
          (apart other (List.mem_append_right _ right))

theorem Gathered.nil : Gathered [] [] := ⟨rfl, List.nodup_nil, List.forall_mem_nil _⟩

theorem Gathered.run {rest : List Field} (gathered : Gathered all fields)
    (ran : rest.foldlM mergeField fields = .ok merged) : Gathered (all ++ rest) merged := by
  induction rest generalizing all fields with
  | nil =>
    cases ran
    rwa [List.append_nil]
  | cons next rest ih =>
    rw [List.foldlM_cons] at ran
    obtain ⟨middle, joined, ran⟩ := Except.ok_of_bind ran
    rw [List.append_cons]
    exact ih (gathered.step joined) ran

/-- Fields that cannot be merged are those of one name, more than one, that cannot be merged. -/
theorem not_gathers_of_error {conflict : Conflict}
    (failed : all.foldlM mergeField [] = .error conflict) :
    2 ≤ (Field.named all conflict.field).length ∧
      ∀ field, ¬ Field.Gathers (Field.named all conflict.field) field := by
  obtain ⟨before, next, after, middle, rfl, well, here⟩ := Except.foldlM_error failed
  have gathered : Gathered before middle := Gathered.nil.run well
  obtain ⟨name, field, member, same, refused⟩ := mergeField_error here
  have gathers := gathered.each field member
  rw [same] at gathers
  have some : Field.named before next.name ≠ [] := by
    obtain ⟨first, others, found, -⟩ := gathers
    simp [found]
  have parts : Field.named (before ++ next :: after) next.name =
      Field.named before next.name ++ [next] ++ Field.named after next.name := by
    rw [List.append_cons, Field.named_append, Field.named_append, Field.named_singleton, if_pos rfl]
  rw [name, parts]
  constructor
  · have one := List.length_pos_iff.mpr some
    simp only [List.length_append, List.length_singleton]
    omega
  · intro whole gathers'
    obtain ⟨merged, further⟩ := gathers'.of_append (by simp)
    exact nomatch refused.symm.trans (gathers.concat_iff.mp further)

theorem fields_ext {others : List Field} (names : fields.map (·.name) = others.map (·.name))
    (each : ∀ field ∈ fields, ∀ other ∈ others, field.name = other.name → field = other) :
    fields = others := by
  induction fields generalizing others with
  | nil => exact (List.map_eq_nil_iff.mp names.symm).symm
  | cons field rest ih =>
    cases others with
    | nil => simp at names
    | cons other others =>
      obtain ⟨name, names⟩ := List.cons.inj names
      have same := each field List.mem_cons_self other List.mem_cons_self name
      have tail := ih names fun field member other member' =>
        each field (List.mem_cons_of_mem _ member) other (List.mem_cons_of_mem _ member')
      rw [same, tail]

/-- Fields are merged one after the other exactly to what is made of all fields of each name. -/
theorem foldlM_mergeField_iff : all.foldlM mergeField [] = .ok fields ↔ Gathered all fields := by
  refine ⟨fun ran => Gathered.nil.run ran, fun gathered => ?_⟩
  cases ran : all.foldlM mergeField [] with
  | error conflict =>
    obtain ⟨several, refused⟩ := not_gathers_of_error ran
    obtain ⟨field, -, -, gathers⟩ := gathered.exists_of_mem (Field.known_of_several several)
    exact (refused field gathers).elim
  | ok others =>
    have gathered' : Gathered all others := Gathered.nil.run ran
    refine congrArg _ (fields_ext (gathered'.names.trans gathered.names.symm) ?_)
    intro field member other member' name
    exact (gathered'.each field member).unique (name ▸ gathered.each other member')

/-! ## Records -/

/-- Distinct names leave nothing to merge. -/
theorem foldlM_mergeField_of_nodup (fields : List Field) {added : List Field}
    (distinct : ((fields ++ added).map (·.name)).Nodup) :
    added.foldlM mergeField fields = .ok (fields ++ added) := by
  have appends (before : List Field) (next : Field) (absent : next.name ∉ before.map (·.name)) :
      mergeField before next = .ok (before ++ [next]) := by
    induction before with
    | nil => rfl
    | cons field rest ih =>
      obtain ⟨differ, absent⟩ := not_or.mp (mt List.mem_cons.mpr absent)
      rw [mergeField, if_neg (Ne.symm differ), ih absent]
      rfl
  induction added generalizing fields with
  | nil => exact (List.append_nil fields).symm ▸ rfl
  | cons next rest ih =>
    rw [List.append_cons] at distinct ⊢
    have absent : next.name ∉ fields.map (·.name) := by
      rw [List.map_append, List.map_append] at distinct
      have front := (List.nodup_append'.mp distinct).1
      simpa using (List.nodup_append'.mp front).2.2
    rw [List.foldlM_cons, appends fields next absent]
    exact ih _ distinct

variable {first : Record} {rest : List Record}

/-- Records are merged by their fields, one after the other. -/
theorem mergeAll_eq : mergeAll first rest =
    (rest.flatMap (·.fields)).foldlM mergeField first.fields >>= fun fields =>
      .ok ⟨(first :: rest).findSome? (·.title), (first :: rest).findSome? (·.description), fields⟩ := by
  have texts (part : Record → Option String) (merged : Record) {before next : Record}
      {rest : List Record} (joined : part merged = (part before).or (part next)) :
      (merged :: rest).findSome? part = (before :: next :: rest).findSome? part := by
    simp only [List.findSome?_cons, joined]
    cases part before <;> rfl
  induction rest generalizing first with
  | nil =>
    obtain ⟨title, description, fields⟩ := first
    cases title <;> cases description <;> rfl
  | cons next rest ih =>
    rw [List.flatMap_cons, List.foldlM_append, mergeAll, List.foldlM_cons, merge]
    simp only [bind_assoc]
    refine bind_congr fun fields => ?_
    let joint : Record := ⟨first.title.or next.title, first.description.or next.description, fields⟩
    rw [← texts (·.title) joint rfl, ← texts (·.description) joint rfl]
    exact ih

/-- All fields of one name that stand in some records. -/
def occurrences (records : List Record) (name : String) : List Field :=
  Field.named (records.flatMap (·.fields)) name

/-- Records whose first has distinct names are merged to what is made of all their fields. -/
theorem mergeAll_iff {merged : Record} (names : first.fieldNames.Nodup) :
    mergeAll first rest = .ok merged ↔
      Gathered ((first :: rest).flatMap (·.fields)) merged.fields ∧
        merged.title = (first :: rest).findSome? (·.title) ∧
        merged.description = (first :: rest).findSome? (·.description) := by
  have start : first.fields.foldlM mergeField [] = .ok first.fields :=
    foldlM_mergeField_of_nodup [] names
  rw [mergeAll_eq, Except.bind_ok_iff, ← foldlM_mergeField_iff, List.flatMap_cons,
    List.foldlM_append, start]
  constructor
  · rintro ⟨fields, ran, ended⟩
    cases ended
    exact ⟨ran, rfl, rfl⟩
  · obtain ⟨title, description, fields⟩ := merged
    rintro ⟨ran, rfl, rfl⟩
    exact ⟨fields, ran, rfl⟩

/-- What a record says that comes of some others. A name that stands in them once keeps its field. -/
structure Merges (records : List Record) (merged : Record) : Prop where
  names : merged.fieldNames = (records.flatMap (·.fieldNames)).eraseDups
  title : merged.title = records.findSome? (·.title)
  description : merged.description = records.findSome? (·.description)
  alone : ∀ field ∈ merged.fields, ∀ one, occurrences records field.name = [one] → field = one
  several : ∀ field ∈ merged.fields, ∀ first others, others ≠ [] →
    occurrences records field.name = first :: others →
      field = first.joint others ∧ ∀ other ∈ others, first.ty.base.same other.ty.base = true

theorem Gathered.merges {records : List Record} {merged : Record}
    (gathered : Gathered (records.flatMap (·.fields)) merged.fields)
    (title : merged.title = records.findSome? (·.title))
    (description : merged.description = records.findSome? (·.description)) :
    Merges records merged := by
  refine ⟨?_, title, description, fun field member one found => ?_,
    fun field member first others several found => ?_⟩
  · rw [fieldNames, gathered.names, List.map_flatMap]
    rfl
  · have gathers := gathered.each field member
    rw [← occurrences, found] at gathers
    exact gathers.unique (.single one)
  · obtain ⟨_, _, found', ran⟩ := gathered.each field member
    rw [← occurrences, found] at found'
    obtain ⟨rfl, rfl⟩ := List.cons.inj found'
    obtain ⟨agree, -, whole⟩ := (Field.foldlM_merge_iff several).mp ran
    exact ⟨whole.symm, agree.types⟩

/-- Records are merged to what all of them say of each name, and they cannot be merged exactly if the
fields of a name that stands in them more than once have nothing in common. Names that are distinct
in the first record are enough; a later record is merged field by field like all others. -/
theorem mergeAll_merges (names : first.fieldNames.Nodup)
    (clear : ∀ record ∈ first :: rest, record.Unambiguous) :
    (∀ merged, mergeAll first rest = .ok merged → Merges (first :: rest) merged) ∧
      ((∃ conflict, mergeAll first rest = .error conflict) ↔
        ∃ name, 2 ≤ (occurrences (first :: rest) name).length ∧
          Field.Clash (occurrences (first :: rest) name)) := by
  have clear (name : String) : ∀ field ∈ occurrences (first :: rest) name, field.Unambiguous :=
    Field.forall_named name (List.forall_mem_flatMap.mpr clear)
  refine ⟨fun merged joined => ?_, ?_, ?_⟩
  · obtain ⟨gathered, title, description⟩ := (mergeAll_iff names).mp joined
    exact gathered.merges title description
  · rintro ⟨conflict, failed⟩
    rw [mergeAll_eq] at failed
    rcases Except.error_of_bind failed with stopped | ⟨_, -, failed⟩
    · have start : first.fields.foldlM mergeField [] = .ok first.fields :=
        foldlM_mergeField_of_nodup [] names
      have whole : ((first :: rest).flatMap (·.fields)).foldlM mergeField [] = .error conflict := by
        rw [List.flatMap_cons, List.foldlM_append, start]
        exact stopped
      obtain ⟨several, apart⟩ := not_gathers_of_error whole
      exact ⟨conflict.field, several, Field.clash_of_not_gathers several apart⟩
    · cases failed
  · rintro ⟨name, several, clash⟩
    cases joined : mergeAll first rest with
    | error conflict => exact ⟨conflict, rfl⟩
    | ok merged =>
      obtain ⟨gathered, -, -⟩ := (mergeAll_iff names).mp joined
      obtain ⟨field, -, -, gathers⟩ := gathered.exists_of_mem (Field.known_of_several several)
      exact (gathers.not_clash several (clear name) clash).elim

theorem namedText_unambiguous (required : Bool) {limits : Constraints} (distinct : limits.Distinct) :
    (namedText required limits).Unambiguous := by
  refine List.forall_mem_singleton.mpr ⟨?_, ?_, distinct⟩
  · cases required
    · exact .optional .leaf
    · exact .leaf
  · intro value given
    cases required <;> cases given

theorem mergeAll_merges_namedText :
    let short := namedText false ⟨none, some 3, some [.str "a", .str "bb"]⟩
    let listed := namedText true ⟨some 1, none, some [.str "bb", .str "ccc"]⟩
    let long := namedText false ⟨some 4, none, none⟩
    Merges [short, listed] (namedText true ⟨some 1, some 3, some [.str "bb"]⟩) ∧
      ∃ name, 2 ≤ (occurrences [short, listed, long] name).length ∧
        Field.Clash (occurrences [short, listed, long] name) := by
  intro short listed long
  have joined : mergeAll short [listed] = .ok (namedText true ⟨some 1, some 3, some [.str "bb"]⟩) := by
    cbv
  have failed : mergeAll short [listed, long] = .error ⟨"n", .lengthWindow 4 3⟩ := by cbv
  have clear : ∀ record ∈ [short, listed, long], record.Unambiguous := by
    simp only [List.forall_mem_cons, List.not_mem_nil, false_implies, implies_true, and_true, short,
      listed, long]
    refine ⟨namedText_unambiguous _ ?_, namedText_unambiguous _ ?_, namedText_unambiguous _ ?_⟩ <;>
      simp [Constraints.Distinct, Json.Distinct.str]
  have fewer : ∀ record ∈ [short, listed], record.Unambiguous := fun record member =>
    clear record (List.mem_append_left [long] member)
  have names : short.fieldNames.Nodup := List.nodup_singleton _
  exact ⟨(mergeAll_merges names fewer).1 _ joined, (mergeAll_merges names clear).2.mp ⟨_, failed⟩⟩

end Record

end SchemaTypes
