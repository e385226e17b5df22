/-
  The answers to choose from, in whichever shape they are authored.

  A question `Offers` its answers under `choices`, or under `options`, or there inside `option`;
  in the latter two shapes other values may stand anywhere among them (`Interspersed`).  What it
  `Asks` besides stands in its other fields.  Only these two make a question (`read_of_offers`).

  * `read_congr_offers`, `read_congr_choices`: questions that ask the same and offer the same are
    read alike, and so are questions with `choices`, whatever their `options` are;
  * `page_of_offers`: the page of a question, with the answers that are `Shown`;
  * `answers_compiled`: all of these, for surveys.
-/
import ChatRelay.Proofs.Survey.Malformed

namespace ChatRelay.Survey

open Schema

/-! ## Shapes -/

/-- The answers, with values that are no answers anywhere among them. -/
inductive Interspersed : List Json → List Json → Prop
  | nil : Interspersed [] []
  | answer {v : Json} {cs vs : List Json} : v.isObject = true → Interspersed cs vs →
      Interspersed (v :: cs) (v :: vs)
  | other {v : Json} {cs vs : List Json} : v.isObject = false → Interspersed cs vs →
      Interspersed cs (v :: vs)

/-- The question offers the answers, in one of the three shapes. -/
inductive Offers (fs : Fields) (cs : List Json) : Prop
  | choices : Json.get? fs "choices" = some (.array cs) → Offers fs cs
  | options {vs : List Json} : Json.get? fs "choices" = none →
      Json.get? fs "options" = some (.array vs) → Interspersed cs vs → Offers fs cs
  | inside {os : Fields} {vs : List Json} : Json.get? fs "choices" = none →
      Json.get? fs "options" = some (.object os) → Json.get? os "option" = some (.array vs) →
      Interspersed cs vs → Offers fs cs

/-- What the question asks, whatever its answers: its kind, its title and its flag, the latter two
    empty and false unless they are given. -/
structure Asks (fs : Fields) (k : QuestionKind) (title : String) (required : Bool) : Prop where
  kind : Json.get? fs "type" = some (.text k.name) ∨
    Json.get? fs "type" = none ∧ Json.get? fs "kind" = some (.text k.name)
  title : Json.get? fs "title" = some (.text title) ∨ Json.get? fs "title" = none ∧ title = ""
  required : (∃ v, Json.get? fs "required" = some v ∧ asFlag v = .fits required) ∨
    Json.get? fs "required" = none ∧ required = false

/-- The fields of a question besides its answers are the same. -/
def SameStem (fs gs : Fields) : Prop :=
  ∀ name ∈ ["type", "kind", "title", "required"], Json.get? fs name = Json.get? gs name

/-! ## Answers -/

/-- The text of a label or a value that may be absent. -/
inductive AnswerText : Option Json → String → Prop
  | absent : AnswerText none ""
  | null : AnswerText (some .null) ""
  | true : AnswerText (some (.bool true)) "true"
  | false : AnswerText (some (.bool false)) "false"
  | other {v : Json} : v ≠ .null → (∀ b, v ≠ .bool b) → AnswerText (some v) v.display

/-- An authored answer and the one that is chosen from. -/
inductive IsAnswer : Json → Choice → Prop
  | mk {fs : Fields} {c : Choice} : AnswerText (Json.get? fs "label") c.label →
      AnswerText (Json.get? fs "value") c.value → IsAnswer (.object fs) c

/-- The kinds whose pages show the answers of the question. -/
def showing : List QuestionKind := [.choice, .text, .rating]

/-- What a page of the kind shows of the answers: all of them in order, if there are any, or what
    belongs to the kind. -/
inductive Shown (cs : List Json) : QuestionKind → Option Options → Prop
  | nothing {k : QuestionKind} : k ∈ showing → cs = [] → Shown cs k none
  | answers {k : QuestionKind} {as : List Choice} : k ∈ showing → cs ≠ [] →
      List.Forall₂ IsAnswer cs as → Shown cs k (some (.choices as))
  | boolean : Shown cs .boolean (some (.choices [⟨"Yes", "true"⟩, ⟨"No", "false"⟩]))
  | nps : Shown cs .nps (some (.range 0 10))
  | ces : Shown cs .ces (some (.range 1 7))

/-! ## Unwrapping -/

section Unwrapping

variable {cs vs : List Json} {fs gs : Fields}

theorem interspersed_iff : Interspersed cs vs ↔ vs.filter Json.isObject = cs := by
  constructor
  · intro h
    induction h with
    | nil => rfl
    | answer hv _ ih => rw [List.filter_cons_of_pos hv, ih]
    | other hv _ ih => rw [List.filter_cons_of_neg (by simp [hv]), ih]
  · rintro rfl
    induction vs with
    | nil => exact .nil
    | cons v vs ih =>
      cases hv : v.isObject with
      | true =>
        rw [List.filter_cons_of_pos hv]
        exact .answer hv ih
      | false =>
        rw [List.filter_cons_of_neg (by simp [hv])]
        exact .other hv ih

theorem elementsOrNone?_array (vs : List Json) : (Json.array vs).elementsOrNone? = some vs := by
  cases vs <;> rfl

theorem unwrapped?_of_choices {v : Json} (h : Json.get? fs "choices" = some v) :
    Question.unwrapped? (.object fs) = some (.object fs) := by
  simp only [Question.unwrapped?, h]

/-- The answers under `options` are moved, what is none of them is left behind. -/
theorem unwrapped?_of_options {options v : Json} (hchoices : Json.get? fs "choices" = none)
    (hoptions : Json.get? fs "options" = some options) (hlists : Lists options v)
    (hv : v = .array vs) (h : Interspersed cs vs) : Question.unwrapped? (.object fs) =
      some (.object (Json.put "choices" (.array cs) (Json.without "options" fs))) := by
  subst hv
  have hcs : authoredChoices? options = some cs := by
    rw [authoredChoices?_of_lists hlists, elementsOrNone?_array, Option.map_some,
      interspersed_iff.1 h]
  simp only [Question.unwrapped?, hchoices, hoptions, hcs, Option.map_some]

/-- **In any shape a question is unwrapped into one with the answers under `choices`**, its other
    fields as they are. -/
theorem unwrapped?_of_offers (h : Offers fs cs) :
    ∃ us, Question.unwrapped? (.object fs) = some (.object us) ∧ SameStem us fs ∧
      Json.get? us "choices" = some (.array cs) := by
  have hmoved : SameStem (Json.put "choices" (.array cs) (Json.without "options" fs)) fs := by
    intro name hname
    have hne : name ≠ "choices" ∧ name ≠ "options" := by
      constructor <;> rintro rfl <;> exact absurd hname (by decide)
    rw [Json.get?_put_of_ne hne.1, Json.get?_without, if_neg hne.2]
  cases h with
  | choices hchoices => exact ⟨fs, unwrapped?_of_choices hchoices, fun _ _ => rfl, hchoices⟩
  | options hchoices hoptions hcs =>
    exact ⟨_, unwrapped?_of_options hchoices hoptions (.plain rfl) rfl hcs, hmoved,
      Json.get?_put _ _ _⟩
  | inside hchoices hoptions hoption hcs =>
    exact ⟨_, unwrapped?_of_options hchoices hoptions (.inside hoption) rfl hcs, hmoved,
      Json.get?_put _ _ _⟩

end Unwrapping

/-! ## Reading -/

section Reading

variable {cs : List Json} {fs gs : Fields}

/-- What is read depends only on what stands under the names of a question. -/
theorem check_congr (hstem : SameStem fs gs)
    (hchoices : Json.get? fs "choices" = Json.get? gs "choices") :
    Question.check (.object fs) = Question.check (.object gs) := by
  have htype := hstem "type" (by decide)
  have hkind := hstem "kind" (by decide)
  have htitle := hstem "title" (by decide)
  have hrequired := hstem "required" (by decide)
  simp only [Question.check, asRecord, field, fieldOr, named?, List.findSome?, htype, hkind, htitle,
    hrequired, hchoices]

/-- **Questions that ask the same and offer the same are read alike.** -/
theorem read_congr_offers (hstem : SameStem fs gs) (hfs : Offers fs cs) (hgs : Offers gs cs) :
    Question.read (.object fs) = Question.read (.object gs) := by
  obtain ⟨us, hus, hfstem, hfchoices⟩ := unwrapped?_of_offers hfs
  obtain ⟨ws, hws, hgstem, hgchoices⟩ := unwrapped?_of_offers hgs
  have hsame : SameStem us ws := fun name hname => by
    rw [hfstem name hname, hstem name hname, hgstem name hname]
  unfold Question.read
  rw [hus, hws]
  dsimp only
  rw [check_congr hsame (hfchoices.trans hgchoices.symm)]

/-- **Where there are `choices`, `options` do not count.** -/
theorem read_congr_choices {v : Json} (hv : Json.get? fs "choices" = some v)
    (hstem : SameStem fs gs) (hchoices : Json.get? fs "choices" = Json.get? gs "choices") :
    Question.read (.object fs) = Question.read (.object gs) := by
  unfold Question.read
  rw [unwrapped?_of_choices hv, unwrapped?_of_choices (hchoices.symm.trans hv)]
  dsimp only
  rw [check_congr hstem hchoices]

theorem answerText_iff {v : Json} {t : String} : answerText v = t ↔ AnswerText (some v) t := by
  constructor
  · rintro rfl
    cases v with
    | null => exact .null
    | bool b =>
      cases b with
      | true => exact .true
      | false => exact .false
    | _ => exact .other (by simp) (by simp)
  · intro h
    cases h with
    | null | true | false => rfl
    | other hnull hbool =>
      cases v with
      | null => exact absurd rfl hnull
      | bool b => exact absurd rfl (hbool b)
      | _ => rfl

theorem answerPart_fits_iff {name t : String} :
    fieldOr [name] "" answerPart fs = .fits t ↔ AnswerText (Json.get? fs name) t := by
  rw [fieldOr_fits_iff]
  cases Json.get? fs name with
  | none =>
    constructor
    · rintro (⟨_, hv, -⟩ | ⟨-, rfl⟩)
      · cases hv
      · exact .absent
    · intro h
      cases h
      exact Or.inr ⟨rfl, rfl⟩
  | some v => simp [answerPart, answerText_iff]

/-- An answer is read into its label and its value, whatever they are. -/
theorem check_answer_iff {v : Json} {c : Choice} : Choice.check v = .fits c ↔ IsAnswer v c := by
  cases v with
  | object fs =>
    change Choice.mk <$> fieldOr ["label"] "" answerPart fs <*>
      fieldOr ["value"] "" answerPart fs = .fits c ↔ _
    simp only [seq_eq_fits_iff, map_eq_fits_iff, answerPart_fits_iff]
    constructor
    · rintro ⟨_, value, ⟨label, hlabel, rfl⟩, hvalue, rfl⟩
      exact .mk hlabel hvalue
    · rintro ⟨hlabel, hvalue⟩
      exact ⟨_, _, ⟨_, hlabel, rfl⟩, hvalue, rfl⟩
  | _ => exact iff_of_false nofun nofun

theorem exists_answers (hcs : ∀ c ∈ cs, c.isObject = true) :
    ∃ as, List.Forall₂ IsAnswer cs as := by
  refine exists_forall₂ fun c hc => ?_
  obtain ⟨a, ha⟩ := exists_answer_iff.2 (hcs c hc)
  exact ⟨a, check_answer_iff.1 ha⟩

theorem kind_of_asks {k : QuestionKind} {title : String} {required : Bool}
    (h : Asks fs k title required) :
    field ["type", "kind"] (asWord QuestionKind.names) fs = .fits k := by
  have hword : asWord QuestionKind.names (.text k.name) = .fits k := by cases k <;> rfl
  unfold field named?
  rcases h.kind with htype | ⟨htype, hkind⟩
  · simp [htype, hword, under_eq_fits_iff]
  · simp [htype, hkind, hword, under_eq_fits_iff]

/-- **A question is read into what it asks and what it offers.** -/
theorem read_of_offers {k : QuestionKind} {title : String} {required : Bool} {as : List Choice}
    (hasks : Asks fs k title required) (hoffers : Offers fs cs)
    (has : List.Forall₂ IsAnswer cs as) :
    Question.read (.object fs) = .ok ⟨k, title, required, as⟩ := by
  obtain ⟨us, hus, hstem, hchoices⟩ := unwrapped?_of_offers hoffers
  have hkind : Asks us k title required := by
    constructor
    · rw [hstem "type" (by decide), hstem "kind" (by decide)]
      exact hasks.kind
    · rw [hstem "title" (by decide)]
      exact hasks.title
    · rw [hstem "required" (by decide)]
      exact hasks.required
  have hcheck : Question.check (.object us) = .fits ⟨k, title, required, as⟩ := by
    change Question.mk <$> field ["type", "kind"] (asWord QuestionKind.names) us
      <*> fieldOr ["title"] "" asText us <*> fieldOr ["required"] false asFlag us
      <*> fieldOr ["choices"] [] (asItems Choice.check) us = _
    simp only [seq_eq_fits_iff, map_eq_fits_iff, fieldOr_fits_iff]
    refine ⟨_, as, ⟨_, required, ⟨_, title, ⟨k, kind_of_asks hkind, rfl⟩, ?_, rfl⟩,
      hkind.required, rfl⟩, ?_, rfl⟩
    · rcases hkind.title with htitle | htitle
      · exact Or.inl ⟨_, htitle, asText_eq_fits_iff.2 rfl⟩
      · exact Or.inr htitle
    · refine Or.inl ⟨_, hchoices, asItems_eq_fits_iff.2 ⟨cs, rfl, ?_⟩⟩
      exact has.imp fun _ _ => check_answer_iff.2
  unfold Question.read
  rw [hus]
  dsimp only
  rw [hcheck]

end Reading

/-! ## Pages -/

section Pages

variable {cs : List Json} {as : List Choice} {fs gs : Fields}

/-- The page of a question shows its answers if the kind does. -/
theorem shown_pageOptions (k : QuestionKind) (title : String) (required : Bool)
    (has : List.Forall₂ IsAnswer cs as) : Shown cs k (pageOptions ⟨k, title, required, as⟩) := by
  have hshowing : k ∈ showing →
      Shown cs k (if as.isEmpty then none else some (.choices as)) := by
    intro hk
    cases has with
    | nil => exact .nothing hk rfl
    | cons ha has => exact .answers hk (List.cons_ne_nil _ _) (.cons ha has)
  cases k with
  | boolean => exact .boolean
  | nps => exact .nps
  | ces => exact .ces
  | text | rating | choice => exact hshowing (by decide)

/-- The page for a question at a place, with what it offers; after the last question comes the end
    of the survey. -/
def placedPage (place : Nat) (isLast : Bool) (k : QuestionKind) (title : String)
    (required : Bool) (o : Option Options) : Page where
  id := s!"q-{place + 1}"
  kind := pageKind k
  title := title
  text := none
  required := required
  options := o
  routing := [("*", [if isLast then "end" else s!"q-{place + 2}"])]

/-- The survey with a question among others that are well formed. -/
theorem readPages_of_read {q : Json} {x : Question} {before after : List Json}
    (hothers : ∀ q' ∈ before ++ after, WellFormed q') (hq : Question.read q = .ok x)
    (message : String) (description : Option String) : ∃ bs as, bs.length = before.length ∧
      as.length = after.length ∧
      readPages (before ++ q :: after) (.text message) (Json.ofText? description) =
        .ok (compile (bs ++ x :: as) message description) := by
  obtain ⟨bs, hbs⟩ : ∃ bs, before.mapM Question.read = .ok bs :=
    exists_mapM_ok fun q' hq' => exists_read_iff.2 (hothers q' (by simp [hq']))
  obtain ⟨as, has⟩ : ∃ as, after.mapM Question.read = .ok as :=
    exists_mapM_ok fun q' hq' => exists_read_iff.2 (hothers q' (by simp [hq']))
  have hall : (before ++ q :: after).mapM Question.read = .ok (bs ++ x :: as) := by
    rw [List.mapM_append, hbs, List.mapM_cons, hq, has]
    rfl
  refine ⟨bs, as, (mapM_eq_ok_iff.1 hbs).length_eq.symm, (mapM_eq_ok_iff.1 has).length_eq.symm, ?_⟩
  rw [readPages_text, hall]
  rfl

/-- **A question among others has the page of its place**, which shows the answers that it
    offers. -/
theorem page_of_offers {k : QuestionKind} {title : String} {required : Bool}
    (hcs : ∀ c ∈ cs, c.isObject = true) (hasks : Asks fs k title required)
    (hoffers : Offers fs cs) {before after : List Json}
    (hothers : ∀ q ∈ before ++ after, WellFormed q) (message : String)
    (description : Option String) : ∃ pages o,
      readPages (before ++ .object fs :: after) (.text message) (Json.ofText? description) =
        .ok pages ∧
      pages[before.length]? = some (placedPage before.length after.isEmpty k title required o) ∧
      Shown cs k o := by
  obtain ⟨as, has⟩ := exists_answers hcs
  obtain ⟨bs, ds, hbs, hds, hread⟩ := readPages_of_read hothers (read_of_offers hasks hoffers has)
    message description
  refine ⟨_, _, hread, ?_, shown_pageOptions k title required has⟩
  have hplace : (bs ++ ⟨k, title, required, as⟩ :: ds)[before.length]? =
      some ⟨k, title, required, as⟩ := by
    rw [← hbs]
    simp
  have hlast : before.length + 1 < (bs ++ (⟨k, title, required, as⟩ : Question) :: ds).length ↔
      ¬ after.isEmpty = true := by
    rw [List.isEmpty_iff_length_eq_zero, List.length_append, List.length_cons, hbs, hds]
    omega
  rw [compile, getElem?_pagesFrom _ 0 _ hplace, Nat.zero_add]
  simp only [hlast, ite_not]
  rfl

/-- **The shape in which answers are authored makes no difference.**  Questions that ask the same
    and offer the same answers have the same pages: as `choices`, as `options` or inside `option`,
    with any other values strewn among the latter.  The page shows what `Shown` says, and where
    there are `choices`, `options` do not count. -/
theorem answers_compiled (hcs : ∀ c ∈ cs, c.isObject = true) (before after : List Json) :
    (∀ fs gs, SameStem fs gs → Offers fs cs → Offers gs cs → ∀ message description,
      readPages (before ++ .object fs :: after) message description =
        readPages (before ++ .object gs :: after) message description) ∧
      (∀ fs k title required, Asks fs k title required → Offers fs cs →
        (∀ q ∈ before ++ after, WellFormed q) → ∀ message description, ∃ pages o,
          readPages (before ++ .object fs :: after) (.text message) (Json.ofText? description) =
            .ok pages ∧
          pages[before.length]? =
            some (placedPage before.length after.isEmpty k title required o) ∧
          Shown cs k o) ∧
      ∀ fs gs v, Json.get? fs "choices" = some v → Json.get? gs "choices" = some v →
        SameStem fs gs → ∀ message description,
          readPages (before ++ .object fs :: after) message description =
            readPages (before ++ .object gs :: after) message description := by
  have hpages : ∀ q q', Question.read q = Question.read q' → ∀ message description,
      readPages (before ++ q :: after) message description =
        readPages (before ++ q' :: after) message description := by
    intro q q' hread message description
    unfold readPages
    simp only [List.mapM_append, List.mapM_cons, hread]
  refine ⟨fun fs gs hstem hfs hgs => ?_, fun fs k title required hasks hoffers hothers => ?_,
    fun fs gs v hfs hgs hstem => ?_⟩
  · exact hpages _ _ (read_congr_offers hstem hfs hgs)
  · exact page_of_offers hcs hasks hoffers hothers
  · exact hpages _ _ (read_congr_choices hfs hstem (hfs.trans hgs.symm))

/-- Answers whose labels are a flag and null, among values that are no answers. -/
theorem answers_compiled_among_others :
    ∃ pages o, readPages [.object [("type", .text "choice"), ("title", .text "Pick"),
        ("options", .object [("option", .array [.null, .object [("label", .bool true)], .int 5,
          .object [("label", .null), ("value", .int 7)]])])]] (.text "Bye") .null = .ok pages ∧
      pages[0]? = some (placedPage 0 true .choice "Pick" false o) ∧
      Shown [.object [("label", .bool true)], .object [("label", .null), ("value", .int 7)]]
        .choice o := by
  have hanswers : Interspersed
      [.object [("label", .bool true)], .object [("label", .null), ("value", .int 7)]]
      [.null, .object [("label", .bool true)], .int 5,
        .object [("label", .null), ("value", .int 7)]] :=
    .other rfl (.answer rfl (.other rfl (.answer rfl .nil)))
  have hobjects : ∀ c ∈ [Json.object [("label", .bool true)],
      .object [("label", .null), ("value", .int 7)]], c.isObject = true := by decide
  exact (answers_compiled hobjects [] []).2.1 _ .choice "Pick" false
    ⟨Or.inl rfl, Or.inl rfl, Or.inr ⟨rfl, rfl⟩⟩ (.inside rfl rfl rfl hanswers) (by simp) "Bye" none

end Pages

end ChatRelay.Survey
