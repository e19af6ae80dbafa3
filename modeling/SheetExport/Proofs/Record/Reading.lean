/-
**Records of plain types, and what names mean on them.**

Of a type of which no member makes the records, sets what they have, or is asked for all their names
(`RecordType.Plain`):

* `Record.of_record?` — a record has what the fields are given, and nothing else;
* `Record.valueOf_attribute`, `exists_valueOf_constant`, `exists_valueOf_inherent` — these can be
  read;
* `Record.valueOf_property`, `Record.call_method` — properties and methods run their own code on the
  record, as a method without required parameters takes its owner alone (`checkArguments_owner`).
-/

import SheetExport.Proofs.Record.Declared

namespace SheetExport

/-! ### Arguments -/

namespace Annotation

variable {parameters : List Parameter} {defaults : List Meaning} {p : Parameter}
  {found : Option Meaning}

theorem withDefaults_of_noDefault (required : p.hasDefault = false) :
    withDefaults (p :: parameters) defaults = (p, none) :: withDefaults parameters defaults := by
  cases defaults <;> simp [withDefaults, required]

/-- Where there are enough defaults, each parameter that has one gets it. -/
theorem of_mem_withDefaults (enough : (parameters.filter (·.hasDefault)).length ≤ defaults.length)
    (isEntry : (p, found) ∈ withDefaults parameters defaults) :
    p ∈ parameters ∧ (p.hasDefault = true → found.isSome = true) := by
  induction parameters generalizing defaults with
  | nil => cases isEntry
  | cons first rest ih =>
    cases has : first.hasDefault with
    | false =>
      rw [List.filter_cons_of_neg (by simp [has])] at enough
      rw [withDefaults_of_noDefault has] at isEntry
      obtain same | later := List.mem_cons.mp isEntry
      · cases same
        exact ⟨List.mem_cons_self, fun is => absurd is (by simp [has])⟩
      · exact (ih enough later).imp_left (List.mem_cons_of_mem first)
    | true =>
      rw [List.filter_cons_of_pos has, List.length_cons] at enough
      cases defaults with
      | nil => exact absurd enough (Nat.not_succ_le_zero _)
      | cons d others =>
        have entries : withDefaults (first :: rest) (d :: others) =
            (first, some d) :: withDefaults rest others := by simp [withDefaults, has]
        rw [entries] at isEntry
        obtain same | later := List.mem_cons.mp isEntry
        · cases same
          exact ⟨List.mem_cons_self, fun _ => rfl⟩
        · exact (ih (Nat.le_of_succ_le_succ enough) later).imp_left (List.mem_cons_of_mem first)

/-- No parameter lacks an argument if each that takes some is filled or has a default. -/
theorem lacking_eq_nil (entries : List (Parameter × Option Meaning))
    (fill : Parameter → Option Meaning) (takes : Parameter → Bool)
    (each : ∀ p found, (p, found) ∈ entries → takes p = true → ((fill p).or found).isSome = true) :
    ((entries.map fun (p, found) => (p, (fill p).or found)).filterMap fun (p, found) =>
      if takes p && found.isNone then some p.name else none) = [] := by
  refine List.filterMap_eq_nil_iff.mpr fun entry isEntry => ?_
  obtain ⟨⟨p, found⟩, isOld, rfl⟩ := List.mem_map.mp isEntry
  refine if_neg fun lacks => ?_
  obtain ⟨isTaken, isNone⟩ := Bool.and_eq_true_iff.mp lacks
  have isSome := each p found isOld isTaken
  rw [Option.isNone_iff_eq_none.mp isNone] at isSome
  cases isSome

/-- Takes an argument by its place. -/
def takesPlace (p : Parameter) : Bool := [Passing.byPosition, .byEither].contains p.passing

/-- What a parameter is given where the only argument is given by its place. -/
def givenOne (parameters : List Parameter) (m : Meaning) (p : Parameter) : Option Meaning :=
  ((((parameters.filter takesPlace).zip [m]).map fun (p, m) => (p.name, m)).lookup p.name).or
    (if p.passing == Passing.byPosition then none else List.lookup p.name [])

/-- **A function whose other parameters are optional can be called on its owner alone.** -/
theorem exists_bindArguments {title : String} {owner : Parameter} {m : Meaning}
    (takes : owner.passing = .byEither) (required : owner.hasDefault = false)
    (enough : (parameters.filter (·.hasDefault)).length ≤ defaults.length)
    (optional : ∀ p ∈ parameters,
      p.hasDefault = true ∨ p.passing = .allByPosition ∨ p.passing = .allByName) :
    ∃ bound, bindArguments title (owner :: parameters) defaults ⟨[m], []⟩ = .ok bound := by
  have ownerTakes : takesPlace owner = true := by
    rw [takesPlace, takes]
    rfl
  have given : givenOne (owner :: parameters) m owner = some m := by
    rw [givenOne, List.filter_cons_of_pos ownerTakes]
    simp
  have filled (taking : Parameter → Bool)
      (single : ∀ p, p.passing = .allByPosition ∨ p.passing = .allByName → taking p = false) :=
    lacking_eq_nil (withDefaults (owner :: parameters) defaults)
      (givenOne (owner :: parameters) m) taking fun p found isEntry isTaken => by
        rw [withDefaults_of_noDefault required] at isEntry
        obtain same | later := List.mem_cons.mp isEntry
        · cases same
          rw [given]
          rfl
        · obtain ⟨isParameter, hasDefault⟩ := of_mem_withDefaults enough later
          obtain defaulted | others := optional p isParameter
          · rw [Option.isSome_or, hasDefault defaulted, Bool.or_true]
          · rw [single p others] at isTaken
            cases isTaken
  have nothing {names : List String} (some : (!names.isEmpty) = true) (none : names = []) :
      False := by
    rw [none] at some
    cases some
  unfold bindArguments
  dsimp only [List.forIn_nil]
  split
  · rename_i tooMany
    simp [takes] at tooMany
  · split
    · refine (nothing ‹_› (filled takesPlace fun p others => ?_)).elim
      rw [takesPlace]
      obtain all | all := others <;> rw [all] <;> rfl
    · split
      · refine (nothing ‹_› (filled (·.passing == .byName) fun p others => ?_)).elim
        obtain all | all := others <;> rw [all] <;> rfl
      · exact ⟨_, rfl⟩
end Annotation

/-- A function whose parameters besides its owner are optional takes its owner alone. -/
theorem checkArguments_owner {name : String} {parameters : List Parameter}
    (optional : parameters.filter Parameter.isRequired = []) :
    checkArguments name (.owner "self" :: parameters) 1 [] = .ok () := by
  have bound : ∃ bound, Annotation.bindArguments name
      ((Parameter.owner "self" :: parameters).map fun p =>
        Annotation.Parameter.mk p.name p.kind.passing p.hasDefault)
      (((Parameter.owner "self" :: parameters).filter (·.hasDefault)).map fun _ =>
        Annotation.Meaning.absent)
      ⟨List.replicate 1 .absent, [].map fun name => (name, .absent)⟩ = .ok bound := by
    refine Annotation.exists_bindArguments rfl rfl ?_ fun p isParameter => ?_
    · simp [List.filter_map, Parameter.owner, Function.comp_def]
    · obtain ⟨q, isOld, rfl⟩ := List.mem_map.mp isParameter
      have notRequired := List.filter_eq_nil_iff.mp optional q isOld
      cases defaulted : q.hasDefault with
      | true => exact Or.inl rfl
      | false =>
        right
        cases kind : q.kind with
        | positional => exact absurd (by simp [Parameter.isRequired, defaulted, kind]) notRequired
        | keywordOnly => exact absurd (by simp [Parameter.isRequired, defaulted, kind]) notRequired
        | variadic => exact Or.inl rfl
        | keywords => exact Or.inr rfl
  obtain ⟨bound, bound⟩ := bound
  unfold checkArguments
  dsimp only
  rw [bound]

namespace RecordType

variable {t : RecordType}

/-! ### Records -/

/-- No member makes the records of the type, sets what they have, or is asked for all names. -/
structure Plain (t : RecordType) : Prop where
  making : t.member? "__new__" = none
  initial : t.member? settingMember = none
  setting : t.member? "__setattr__" = none
  reading : t.member? "__getattribute__" = none
  missing : t.member? "__getattr__" = none

/-- Names that all have values keep their order. -/
theorem map_fst_filterMap {entries : List (String × Option Value)}
    (complete : entries.filter (·.2.isNone) = []) :
    (entries.filterMap fun (name, v) => v.map fun v => (name, v)).map Prod.fst =
      entries.map Prod.fst := by
  induction entries with
  | nil => rfl
  | cons entry entries ih =>
    obtain ⟨name, v⟩ := entry
    cases v with
    | none => cases complete
    | some v =>
      have rest : entries.filter (·.2.isNone) = [] := complete
      rw [List.map_cons, ← ih rest]
      rfl

/-- What fills the fields gives each of them a value. -/
theorem map_fst_of_fillFields {name : String} {given found : List (String × Value)}
    (filled : t.fillFields name given = .ok found) :
    found.map Prod.fst = t.bindings.map Binding.name := by
  unfold fillFields at filled
  split at filled
  · cases filled
  · dsimp only at filled
    split at filled
    · rename_i complete
      cases filled
      rw [map_fst_filterMap complete, List.map_map]
      rfl
    · cases filled

end RecordType

namespace Record

variable {t : RecordType} {attributes : List (String × Value)} {r : Record}

/-- Setting adds an attribute. -/
theorem of_set {name : String} {v : Value} (plain : t.Plain)
    (set : (object t attributes).set name v = .ok r) :
    r = object t (attributes ++ [(name, v)]) := by
  have notAsked : (object t attributes).ask? "__setattr__" 2 = none := by
    rw [ask?, Attribute.ask?, plain.setting]
    rfl
  unfold Record.set at set
  rw [notAsked] at set
  dsimp only at set
  cases member : t.member? name with
  | none =>
    rw [member] at set
    dsimp only at set
    split at set
    · cases set
    · cases set
      rfl
  | some m =>
    rw [member] at set
    dsimp only at set
    split at set
    · cases set
    · split at set
      · cases set
      · cases set
        rfl

theorem of_setAll {given : List (String × Value)} (plain : t.Plain)
    (set : (object t attributes).setAll given = .ok r) : r = object t (attributes ++ given) := by
  induction given generalizing attributes with
  | nil =>
    cases set
    rw [List.append_nil]
  | cons entry given ih =>
    obtain ⟨name, v⟩ := entry
    unfold setAll at set
    rw [List.foldlM_cons] at set
    obtain ⟨r', first, others⟩ := except_bind_eq_ok_iff.mp set
    obtain rfl := of_set plain first
    rw [ih others, List.append_assoc]
    rfl

/-- **A record has what the fields are given**, each under its name. -/
theorem of_record? {given : List (String × Value)} (declared : t.Declared)
    (structured : t.isStructured = true) (plain : t.Plain) (made : t.record? given = .ok r) :
    ∃ attributes, r = object t attributes ∧
      attributes.map Prod.fst = t.bindings.map Binding.name := by
  obtain ⟨constructor, hasConstructor⟩ := declared.exists_constructor structured plain.initial
  unfold RecordType.record? at made
  rw [plain.making, plain.initial, hasConstructor] at made
  obtain ⟨found, filled, made⟩ := except_bind_eq_ok_iff.mp made
  obtain ⟨new, set, made⟩ := except_bind_eq_ok_iff.mp made
  have isNew : new = r := by
    split at made
    · obtain ⟨_, -, same⟩ := map_eq_ok_iff.mp made
      exact same
    · exact Except.ok.inj made
  refine ⟨found, ?_, RecordType.map_fst_of_fillFields filled⟩
  rw [← isNew, of_setAll plain set, List.nil_append]

/-! ### Names on records -/

/-- What code of a record's type reads further names by, to a depth. -/
def readerWithin (r : Record) (depth : Nat) : Reader := fun a name =>
  (a.readWithin (fun _ => r.literal) depth name).map (Attribute.toValue fun _ => r.literal)

/-- How far the code of a property reads further names. -/
def innerDepth (t : RecordType) : Nat := 2 * t.members.length + 3

/-- No member for all names stands between a name and what the record has under it. -/
theorem lookup_eq (plain : t.Plain) (name : String) :
    (object t attributes).lookup name =
      Attribute.ofRecord ((object t attributes).readerWithin (innerDepth t)) t attributes name := by
  have depth : (Attribute.record (object t attributes)).depthOf = innerDepth t + 1 := rfl
  unfold lookup readShown Attribute.readShown readerWithin
  rw [depth, Attribute.readWithin]
  simp only [Attribute.ask?, plain.reading, plain.missing, Option.map_none]
  generalize Attribute.ofRecord _ t attributes name = found
  cases found with
  | ok found => rfl
  | error fault => exact ite_self _

theorem valueOf_eq (plain : t.Plain) (name : String) :
    (object t attributes).valueOf name =
      (Attribute.ofRecord ((object t attributes).readerWithin (innerDepth t)) t attributes name).map
        (Attribute.toValue fun _ => (object t attributes).literal) := by
  rw [valueOf, lookup_eq plain]

theorem follow_single (name : String) : r.follow [name] = r.valueOf name := by
  unfold follow valueOf lookup readShown
  dsimp only
  rw [List.foldlM_cons]
  cases (Attribute.record r).readShown (fun _ => r.literal) name <;> rfl

/-! ### Values of names -/

variable {name : String} {body : Body} {returns : Option FieldType}

/-- What a record itself has under a name can be read, unless a property takes its place. -/
theorem valueOf_attribute {v : Value} (plain : t.Plain)
    (noProperty : ∀ m, t.member? name = some m → m.isProperty = false)
    (own : attributes.lookup name = some v) : (object t attributes).valueOf name = .ok v := by
  rw [valueOf_eq plain, Attribute.ofRecord, own]
  cases member : t.member? name with
  | none => rfl
  | some m =>
    dsimp only
    rw [if_neg (by simp [noProperty m member])]
    rfl

/-- A constant of the type can be read, or what the record itself has under its name. -/
theorem exists_valueOf_constant {v : Value} (plain : t.Plain)
    (member : t.member? name = some (.constant v)) :
    ∃ found, (object t attributes).valueOf name = .ok found := by
  cases own : attributes.lookup name with
  | some v' =>
    refine ⟨v', valueOf_attribute plain (fun m found => ?_) own⟩
    rw [member] at found
    cases found
    rfl
  | none =>
    refine ⟨v, ?_⟩
    rw [valueOf_eq plain, Attribute.ofRecord, member, own]
    rfl

theorem exists_inherited {v : Value} (inherent : t.inherent? name = some (.value v)) :
    ∃ found, Attribute.inherited t r attributes name = .ok found := by
  unfold Attribute.inherited
  rw [inherent]
  split
  all_goals first
    | exact ⟨_, rfl⟩
    | rename_i other
      cases other

/-- What every type has under a name can be read. -/
theorem exists_valueOf_inherent {v : Value} (plain : t.Plain) (noMember : t.member? name = none)
    (inherent : t.inherent? name = some (.value v)) :
    ∃ found, (object t attributes).valueOf name = .ok found := by
  cases own : attributes.lookup name with
  | some v' =>
    refine ⟨v', valueOf_attribute plain (fun m found => ?_) own⟩
    rw [noMember] at found
    cases found
  | none =>
    obtain ⟨found, isFound⟩ := exists_inherited inherent
    rw [valueOf_eq plain, Attribute.ofRecord, noMember, own]
    dsimp only
    rw [isFound]
    exact ⟨_, rfl⟩

/-- What only the type itself has under a name cannot be read off its records. -/
theorem valueOf_hidden (plain : t.Plain) (noMember : t.member? name = none)
    (noAttribute : attributes.lookup name = none) (hidden : t.inherent? name = some .hidden) :
    (object t attributes).valueOf name = .error (.noAttribute t.name name) := by
  have absent : Attribute.inherited t (object t attributes) attributes name =
      .error (.noAttribute t.name name) := by
    obtain ⟨notClass, notAnnotations, notAttributes⟩ := RecordType.ne_of_inherent?_hidden hidden
    unfold Attribute.inherited
    rw [hidden]
    split
    all_goals first
      | rfl
      | contradiction
      | rename_i other
        cases other
  rw [valueOf_eq plain, Attribute.ofRecord, noMember, noAttribute]
  dsimp only
  rw [absent]
  rfl

/-- Reading a property runs its code on the record. -/
theorem valueOf_property (plain : t.Plain)
    (member : t.member? name = some (.property body returns)) :
    (object t attributes).valueOf name =
      body.run ((object t attributes).readerWithin (innerDepth t)
        (.record (object t attributes))) := by
  have onRecord : Attribute.ofRecord ((object t attributes).readerWithin (innerDepth t)) t attributes
      name = (body.run ((object t attributes).readerWithin (innerDepth t)
        (.record (object t attributes)))).map .value := by
    rw [Attribute.ofRecord, member]
    rfl
  rw [valueOf_eq plain, onRecord]
  cases body.run ((object t attributes).readerWithin (innerDepth t)
    (.record (object t attributes))) <;> rfl

/-- Calling a method that needs no arguments runs its code on the record. -/
theorem call_method {parameters : List Parameter} (plain : t.Plain)
    (member : t.member? name = some (.method parameters body returns))
    (noAttribute : attributes.lookup name = none)
    (optional : parameters.filter Parameter.isRequired = []) :
    (object t attributes).call name = body.run (object t attributes).valueOf := by
  have found : (object t attributes).lookup name =
      .ok (.bound ⟨name, .owner "self" :: parameters, body⟩ (.record (object t attributes))) := by
    rw [lookup_eq plain, Attribute.ofRecord, member, noAttribute]
    rfl
  unfold call
  rw [found]
  change (checkArguments name (.owner "self" :: parameters) (0 + 1) []).bind _ = _
  rw [checkArguments_owner optional]
  rfl

/-- Calling the function that every record's text comes from gives this text. -/
theorem call_display (plain : t.Plain) (noMember : t.member? "__repr__" = none)
    (structured : t.isStructured = true) (noAttribute : attributes.lookup "__repr__" = none) :
    (object t attributes).call "__repr__" = (object t attributes).usualText.map .text := by
  have inherent : t.inherent? "__repr__" = some .display := by
    rw [RecordType.inherent?, structured]
    rfl
  have found : (object t attributes).lookup "__repr__" =
      .ok (.inherent "__repr__" (object t attributes)) := by
    rw [lookup_eq plain, Attribute.ofRecord, noMember, noAttribute]
    dsimp only
    unfold Attribute.inherited
    rw [inherent]
    rfl
  unfold call
  rw [found]
  change (object t attributes).callInherent "__repr__" = _
  unfold callInherent
  rw [show (object t attributes).type.isStructured = true from structured]
  rfl

end Record

end SheetExport
