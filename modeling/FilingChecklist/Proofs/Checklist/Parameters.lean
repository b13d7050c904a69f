import FilingChecklist.Proofs.Catalog.Rows
import FilingChecklist.Store.Basic

namespace FilingChecklist

def Parameter.all : List Parameter :=
  [.jurisdiction, .permitType, .project]

def IsAbsent (given : Option String) : Prop :=
  ∀ s ∈ given, Text.trimmed s = ""

instance (given : Option String) : Decidable (IsAbsent given) :=
  inferInstanceAs (Decidable (∀ s ∈ given, Text.trimmed s = ""))

/-- The key that a parameter gives: its trimmed text or, if it is absent, the key that stands in. -/
inductive Gives {kind : KeyKind} (given : Option String) (standIn : Option (Key kind)) :
    Key kind → Prop
  | text {s : String} {key : Key kind} (hgiven : given = some s)
      (hkey : key.text = Text.trimmed s) : Gives given standIn key
  | standIn {key : Key kind} (habsent : IsAbsent given) (hkey : standIn = some key) :
      Gives given standIn key

theorem Key.text_inj {kind : KeyKind} {key other : Key kind} :
    key.text = other.text ↔ key = other := by
  cases key
  cases other
  simp

namespace Key

variable {kind : KeyKind} {given : Option String} {standIn : Option (Key kind)} {key : Key kind}

theorem ofText?_eq_none_iff {s : String} :
    (ofText? s : Option (Key kind)) = none ↔ Text.trimmed s = "" := by
  by_cases hblank : Text.trimmed s = "" <;> simp [ofText?, hblank]

theorem bind_ofText?_eq_none_iff :
    (given.bind ofText? : Option (Key kind)) = none ↔ IsAbsent given := by
  simp only [Option.bind_eq_none_iff, ofText?_eq_none_iff, IsAbsent, Option.mem_def]

theorem or_eq_none_iff :
    (given.bind ofText?).or standIn = none ↔ IsAbsent given ∧ standIn = none := by
  rw [Option.or_eq_none_iff, bind_ofText?_eq_none_iff]

theorem bind_ofText?_eq_some_iff :
    given.bind ofText? = some key ↔ ∃ s, given = some s ∧ key.text = Text.trimmed s := by
  simp only [Option.bind_eq_some_iff, ofText?_eq_some_iff]

theorem or_eq_some_iff_gives :
    (given.bind ofText?).or standIn = some key ↔ Gives given standIn key := by
  rw [Option.or_eq_some_iff, bind_ofText?_eq_none_iff, bind_ofText?_eq_some_iff]
  constructor
  · rintro (⟨s, hgiven, hkey⟩ | ⟨habsent, hkey⟩)
    · exact .text hgiven hkey
    · exact .standIn habsent hkey
  · rintro (⟨hgiven, hkey⟩ | ⟨habsent, hkey⟩)
    · exact .inl ⟨_, hgiven, hkey⟩
    · exact .inr ⟨habsent, hkey⟩

theorem bind_orDefault (given : Option String) (standIn : Option (Key kind)) :
    (Store.orDefault given (standIn.map text)).bind ofText? =
      (given.bind ofText?).or standIn := by
  have hstandIn : (standIn.map text).bind ofText? = standIn := by
    cases standIn with
    | none => rfl
    | some key => exact key.ofText?_text
  cases given with
  | none => exact hstandIn
  | some s =>
      by_cases hblank : Text.trimmed s = ""
      · simp [Store.orDefault, ofText?, hblank, hstandIn]
      · simp [Store.orDefault, ofText?, hblank]

end Key

namespace Query

variable {jurisdiction permitType project : Option String}

theorem ofParameters_eq_ok_iff {query : Query} :
    ofParameters jurisdiction permitType project = .ok query ↔
      jurisdiction.bind Key.ofText? = some query.jurisdiction ∧
        permitType.bind Key.ofText? = some query.permitType ∧
        project.bind Key.ofText? = some query.project := by
  obtain ⟨j, p, i⟩ := query
  simp only [ofParameters]
  cases (jurisdiction.bind Key.ofText? : Option (Key .jurisdiction)) <;>
    cases (permitType.bind Key.ofText? : Option (Key .permitType)) <;>
    cases (project.bind Key.ofText? : Option (Key .project)) <;> simp

theorem ofParameters_eq_error_iff {lacks : Parameter → Prop} [DecidablePred lacks]
    (hjurisdiction : lacks .jurisdiction ↔
      (jurisdiction.bind Key.ofText? : Option (Key .jurisdiction)) = none)
    (hpermitType : lacks .permitType ↔
      (permitType.bind Key.ofText? : Option (Key .permitType)) = none)
    (hproject : lacks .project ↔ (project.bind Key.ofText? : Option (Key .project)) = none)
    {e : ValidationError} :
    ofParameters jurisdiction permitType project = .error e ↔
      (∃ parameter, lacks parameter) ∧
        e = .missingParameters (Parameter.all.filter lacks) := by
  have hexists : (∃ parameter, lacks parameter) ↔
      lacks .jurisdiction ∨ lacks .permitType ∨ lacks .project := by
    constructor
    · rintro ⟨parameter, h⟩
      cases parameter with
      | jurisdiction => exact .inl h
      | permitType => exact .inr (.inl h)
      | project => exact .inr (.inr h)
    · rintro (h | h | h) <;> exact ⟨_, h⟩
  rw [hexists, Parameter.all]
  simp only [ofParameters, List.filter_cons, hjurisdiction, hpermitType, hproject]
  cases (jurisdiction.bind Key.ofText? : Option (Key .jurisdiction)) <;>
    cases (permitType.bind Key.ofText? : Option (Key .permitType)) <;>
    cases (project.bind Key.ofText? : Option (Key .project)) <;> simp [eq_comm]

end Query

namespace Store

/-- The first project with the trimmed text as its key. A blank text is the key of no project. -/
def stored? (store : Store) (project : Option String) : Option Project :=
  project.bind fun s => store.projects.find? fun p => p.id.text == Text.trimmed s

section

variable (store : Store) (project jurisdiction permitType : Option String)

structure Asks (query : Query) : Prop where
  ofProject : ∃ s, project = some s ∧ query.project.text = Text.trimmed s
  ofJurisdiction : Gives jurisdiction ((store.stored? project).map Project.jurisdiction)
    query.jurisdiction
  ofPermitType : Gives permitType ((store.stored? project).map Project.permitType)
    query.permitType

def Missing : Parameter → Prop
  | .jurisdiction => IsAbsent jurisdiction ∧ store.stored? project = none
  | .permitType => IsAbsent permitType ∧ store.stored? project = none
  | .project => IsAbsent project

instance : DecidablePred (store.Missing project jurisdiction permitType)
  | .jurisdiction => inferInstanceAs (Decidable (_ ∧ _))
  | .permitType => inferInstanceAs (Decidable (_ ∧ _))
  | .project => inferInstanceAs (Decidable (IsAbsent _))

end

variable {store : Store} {project jurisdiction permitType : Option String}

theorem project?_eq_find? (id : Key .project) :
    store.project? id = store.projects.find? fun p => p.id.text == id.text := by
  rw [project?]
  congr 1
  funext p
  rw [Bool.eq_iff_iff, beq_iff_eq, beq_iff_eq, Key.text_inj]

theorem bind_project?_eq_stored? :
    (project.bind Key.ofText?).bind store.project? = store.stored? project := by
  cases project with
  | none => rfl
  | some s =>
      rw [stored?, Option.bind_some, Option.bind_some]
      cases hkey : (Key.ofText? s : Option (Key .project)) with
      | none =>
          have hblank : Text.trimmed s = "" := Key.ofText?_eq_none_iff.mp hkey
          refine (List.find?_eq_none.mpr fun p _ => ?_).symm
          simp [hblank, p.id.isNonempty]
      | some id => rw [Option.bind_some, project?_eq_find?, Key.ofText?_eq_some_iff.mp hkey]

theorem bind_projectQuery?_eq :
    (project.bind Key.ofText?).bind store.projectQuery? =
      (store.stored? project).map .ofProject := by
  rw [← bind_project?_eq_stored?, Option.map_bind]
  rfl

theorem checklistFor_eq_bind :
    store.checklistFor project jurisdiction permitType =
      (Query.ofParameters
        (orDefault jurisdiction (((store.stored? project).map Project.jurisdiction).map Key.text))
        (orDefault permitType (((store.stored? project).map Project.permitType).map Key.text))
        project) >>= fun query => .ok (store.checklist query) := by
  rw [← bind_project?_eq_stored?, Option.map_map, Option.map_map]
  rfl

theorem checklistFor_eq_ok_iff {c : Checklist} :
    store.checklistFor project jurisdiction permitType = .ok c ↔
      ∃ query, store.Asks project jurisdiction permitType query ∧ c = store.checklist query := by
  simp only [checklistFor_eq_bind, bind_eq_ok_iff, Query.ofParameters_eq_ok_iff, Key.bind_orDefault,
    Key.or_eq_some_iff_gives, Key.bind_ofText?_eq_some_iff, Except.ok.injEq]
  refine exists_congr fun query => and_congr ⟨?_, ?_⟩ eq_comm
  · rintro ⟨hjurisdiction, hpermitType, hproject⟩
    exact ⟨hproject, hjurisdiction, hpermitType⟩
  · rintro ⟨hproject, hjurisdiction, hpermitType⟩
    exact ⟨hjurisdiction, hpermitType, hproject⟩

theorem checklistFor_eq_error_iff {e : ValidationError} :
    store.checklistFor project jurisdiction permitType = .error e ↔
      (∃ parameter, store.Missing project jurisdiction permitType parameter) ∧
        e = .missingParameters
          (Parameter.all.filter (store.Missing project jurisdiction permitType)) := by
  rw [checklistFor_eq_bind, ← Query.ofParameters_eq_error_iff]
  · cases Query.ofParameters _ _ _ <;> simp [bind, Except.bind]
  · rw [Key.bind_orDefault, Key.or_eq_none_iff, Option.map_eq_none_iff, Missing]
  · rw [Key.bind_orDefault, Key.or_eq_none_iff, Option.map_eq_none_iff, Missing]
  · rw [Key.bind_ofText?_eq_none_iff, Missing]

/-- The key of a stored project asks for the project's own query. -/
theorem asks_of_projectQuery? {query : Query}
    (hquery : (project.bind Key.ofText?).bind store.projectQuery? = some query)
    (hjurisdiction : IsAbsent jurisdiction) (hpermitType : IsAbsent permitType) :
    store.Asks project jurisdiction permitType query := by
  rw [bind_projectQuery?_eq] at hquery
  obtain ⟨p, hstored, rfl⟩ := Option.map_eq_some_iff.mp hquery
  obtain ⟨s, hproject, hfind⟩ := Option.bind_eq_some_iff.mp hstored
  have htext := List.find?_some hfind
  rw [beq_iff_eq] at htext
  exact {
    ofProject := ⟨s, hproject, htext⟩
    ofJurisdiction := .standIn hjurisdiction (congrArg (Option.map Project.jurisdiction) hstored)
    ofPermitType := .standIn hpermitType (congrArg (Option.map Project.permitType) hstored) }

/-- The checklist for the given parameters is that of the query they make. There is none exactly if
some parameter is without a key, and the error names every such parameter. -/
theorem checklistFor_eq_iff (store : Store) (project jurisdiction permitType : Option String) :
    (∀ c, store.checklistFor project jurisdiction permitType = .ok c ↔
        ∃ query, store.Asks project jurisdiction permitType query ∧ c = store.checklist query) ∧
      (∀ e, store.checklistFor project jurisdiction permitType = .error e ↔
        (∃ parameter, store.Missing project jurisdiction permitType parameter) ∧
          e = .missingParameters
            (Parameter.all.filter (store.Missing project jurisdiction permitType))) ∧
      Parameter.all.map Parameter.name = ["municipalityKey", "permitTypeKey", "projectId"] ∧
      ∀ p, store.stored? project = some p → IsAbsent jurisdiction → IsAbsent permitType →
        store.checklistFor project jurisdiction permitType =
          .ok (store.checklist (.ofProject p)) := by
  refine ⟨fun c => checklistFor_eq_ok_iff, fun e => checklistFor_eq_error_iff, rfl, ?_⟩
  intro p hstored hjurisdiction hpermitType
  have hquery : (project.bind Key.ofText?).bind store.projectQuery? = some (.ofProject p) := by
    rw [bind_projectQuery?_eq, hstored, Option.map_some]
  exact checklistFor_eq_ok_iff.mpr
    ⟨_, asks_of_projectQuery? hquery hjurisdiction hpermitType, rfl⟩

theorem checklistFor_eq_padded :
    let solar : Key .permitType := ⟨"solar", by decide, by decide⟩
    let p : Project := ⟨⟨"p-1", by decide, by decide⟩, some "Roof", ⟨"yarmouth", by decide,
      by decide⟩, solar, "2024-05-01"⟩
    let freeport : Key .jurisdiction := ⟨"freeport", by decide, by decide⟩
    let store : Store := { empty with projects := [p] }
    store.checklistFor (some " p-1\t") (some " ") none = .ok (store.checklist (.ofProject p)) ∧
      store.checklistFor (some "p-1") (some "freeport ") none =
        .ok (store.checklist ⟨freeport, solar, p.id⟩) ∧
      store.checklistFor (some "p-2") none (some "solar") =
        .error (.missingParameters [.jurisdiction]) := by
  intro solar p freeport store
  obtain ⟨-, -, -, halone⟩ := checklistFor_eq_iff store (some " p-1\t") (some " ") none
  obtain ⟨hok, -, -⟩ := checklistFor_eq_iff store (some "p-1") (some "freeport ") none
  obtain ⟨-, herror, -⟩ := checklistFor_eq_iff store (some "p-2") none (some "solar")
  refine ⟨halone p rfl (by decide) (by decide), (hok _).mpr ⟨_, ?_, rfl⟩, ?_⟩
  · exact ⟨⟨"p-1", rfl, rfl⟩, .text rfl rfl, .standIn (by decide) rfl⟩
  · exact (herror _).mpr ⟨⟨.jurisdiction, by decide, rfl⟩, by decide⟩

end Store

end FilingChecklist
