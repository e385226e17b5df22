/-
  Written pages tell the pages.

  Everything in a page can be read off what is written for it, except that a page without routes
  is written like one whose wildcard leads nowhere.  `Page.table` is the table that is written,
  `tableOf` reads it back.

  * `tableOf_wire`: what is read back is the table that was written;
  * `wire_eq_iff`, `same_wire_iff`: pages are written alike just if they are alike, with and
    without regard to the order of fields and routes;
  * `page_recovered`: all of these.
-/
import ChatRelay.Proofs.Json.Same
import ChatRelay.Proofs.Survey.Line

namespace ChatRelay.Survey

open Json (Same)

/-! ## The routing table -/

/-- The routing table, where no routes at all stand for a wildcard that leads nowhere. -/
def Page.table (p : Page) : List (String × List String) :=
  if p.routing = [] then [("*", [])] else p.routing

/-- The page with the wildcard that stands for no routes. -/
def Page.settled (p : Page) : Page := { p with routing := p.table }

/-- The pages are equal, except for the order of their routes and for how it is said that there are
    none. -/
structure Page.Same (p q : Page) : Prop where
  id : p.id = q.id
  kind : p.kind = q.kind
  title : p.title = q.title
  text : p.text = q.text
  required : p.required = q.required
  options : p.options = q.options
  routes : ∀ answer, p.table.lookup answer = q.table.lookup answer

/-- A written route, each of its targets an object with an id. -/
def routeOf? (r : String × Json) : Option (String × List String) :=
  (r.2.items?.bind (·.mapM targetId?)).map fun targets => (r.1, targets)

/-- The routing table of a written page. -/
def tableOf (v : Json) : Option (List (String × List String)) :=
  ((answersOf v).bind Json.fields?).bind (·.mapM routeOf?)

section Table

variable (p : Page)

/-- A route as it is written. -/
def routeWire (r : String × List String) : String × Json := (r.1, .array (r.2.map targetWire))

theorem answers_eq : p.answers = p.table.map routeWire := by
  unfold Page.answers Page.table
  cases p.routing <;> rfl

theorem mapM_targetId? (targets : List String) :
    (targets.map targetWire).mapM targetId? = some targets := by
  rw [mapM_eq_some_iff, List.forall₂_map_left_iff, List.forall₂_same]
  exact fun _ _ => rfl

theorem routeOf?_routeWire (r : String × List String) : routeOf? (routeWire r) = some r := by
  have hread : (routeWire r).2.items?.bind (·.mapM targetId?) = some r.2 := mapM_targetId? r.2
  rw [routeOf?, hread]
  rfl

/-- **What is read back is the table that was written.** -/
theorem tableOf_wire : tableOf p.wire = some p.table := by
  rw [tableOf, (fields_wire p).2.2.2.2, answers_eq]
  change (p.table.map routeWire).mapM routeOf? = some p.table
  rw [mapM_eq_some_iff, List.forall₂_map_left_iff, List.forall₂_same]
  exact fun r _ => routeOf?_routeWire r

end Table

/-! ## Parts of written pages -/

/-- What is written for a page, field by field. -/
def pageParts (p : Page) : List (String × Option Json) := [
  ("id", some (.text p.id)),
  ("surveyType", some (.text p.kind)),
  ("title", some (.text p.title)),
  ("text", p.text.map .text),
  ("required", some (.bool p.required)),
  ("options", p.options.map Options.wire),
  ("meta", some (.object [("answers", .object p.answers)]))]

/-- A page is written without regard to how it is written that there are no routes. -/
theorem wire_settled (p : Page) : p.settled.wire = p.wire := by
  have hanswers : p.settled.answers = p.answers := by
    unfold Page.settled Page.answers Page.table
    cases p.routing <;> rfl
  unfold Page.wire
  rw [hanswers]
  rfl

section Same

variable {p q : Page}

theorem wire_eq (p : Page) : p.wire = .object (present (pageParts p)) := rfl

theorem distinct_pageParts (p : Page) : ((pageParts p).map Prod.fst).Nodup := by
  have hnames : (pageParts p).map Prod.fst =
    ["id", "surveyType", "title", "text", "required", "options", "meta"] := rfl
  rw [hnames]
  decide

theorem eq_of_same_choice {c d : Choice} (h : Same c.wire d.wire) : c = d := by
  have hfields := Json.same_object_iff.1 h
  have hlabel : c.label = d.label := Json.same_text_iff.1 (Json.rel_some_iff.1 (hfields "label"))
  have hvalue : c.value = d.value := Json.same_text_iff.1 (Json.rel_some_iff.1 (hfields "value"))
  obtain ⟨label, value⟩ := c
  obtain ⟨label', value'⟩ := d
  obtain rfl : label = label' := hlabel
  obtain rfl : value = value' := hvalue
  rfl

/-- Answers and a range of numbers are not written the same, nor are different ones of either. -/
theorem eq_of_same_options {o o' : Options} (h : Same o.wire o'.wire) : o = o' := by
  cases o with
  | choices cs =>
    cases o' with
    | choices ds =>
      rw [Json.eq_of_same_map (fun _ _ => eq_of_same_choice) h]
    | range _ _ => cases h
  | range a b =>
    cases o' with
    | choices _ => cases h
    | range c d =>
      have hfields := Json.same_object_iff.1 h
      have hleast : a = c := Json.same_int_iff.1 (Json.rel_some_iff.1 (hfields "min"))
      have hgreatest : b = d := Json.same_int_iff.1 (Json.rel_some_iff.1 (hfields "max"))
      rw [hleast, hgreatest]

theorem eq_of_same_target {t u : String} (h : Same (targetWire t) (targetWire u)) : t = u :=
  Json.same_text_iff.1 (Json.rel_some_iff.1 (Json.same_object_iff.1 h "id"))

theorem eq_of_same_targets {ts us : List String}
    (h : Same (.array (ts.map targetWire)) (.array (us.map targetWire))) : ts = us :=
  Json.eq_of_same_map (fun _ _ => eq_of_same_target) h

/-! ## Pages that are written alike -/

theorem get?_answers (p : Page) (answer : String) : Json.get? p.answers answer =
    (p.table.lookup answer).map fun targets => .array (targets.map targetWire) := by
  rw [answers_eq]
  exact lookup_map_targetWire p.table answer

/-- Tables that are written the same lead to the same pages. -/
theorem lookup_eq_of_same (h : Same (.object p.answers) (.object q.answers)) (answer : String) :
    p.table.lookup answer = q.table.lookup answer := by
  have hanswer := Json.same_object_iff.1 h answer
  rw [get?_answers, get?_answers] at hanswer
  exact Json.eq_of_rel_map (fun _ _ => eq_of_same_targets) hanswer

theorem same_answers (h : ∀ answer, p.table.lookup answer = q.table.lookup answer) :
    Same (.object p.answers) (.object q.answers) := by
  rw [Json.same_object_iff]
  intro answer
  rw [get?_answers, get?_answers, h answer]
  exact Json.rel_refl _

/-- **Pages are written the same just if they are the same**, up to the order of fields and of
    routes. -/
theorem same_wire_iff : Json.Same p.wire q.wire ↔ p.Same q := by
  have hnames : (pageParts p).map Prod.fst = (pageParts q).map Prod.fst := rfl
  rw [wire_eq, wire_eq, Json.same_present_iff hnames (distinct_pageParts p)]
  simp only [pageParts, List.forall₂_cons, List.forall₂_nil_left_iff, true_and, and_true,
    Json.rel_some_iff, Json.same_text_iff, Json.same_bool_iff]
  constructor
  · rintro ⟨hid, hkind, htitle, htext, hrequired, hoptions, hmeta⟩
    have hanswers := Json.rel_some_iff.1 (Json.same_object_iff.1 hmeta "answers")
    exact ⟨hid, hkind, htitle, Json.eq_of_rel_map (fun _ _ => Json.same_text_iff.1) htext,
      hrequired, Json.eq_of_rel_map (fun _ _ => eq_of_same_options) hoptions,
      lookup_eq_of_same hanswers⟩
  · intro h
    have hmeta : Json.Same (.object [("answers", .object p.answers)])
        (.object [("answers", .object q.answers)]) := by
      rw [Json.same_object_iff]
      intro name
      rw [Json.get?_cons, Json.get?_cons]
      split
      · exact .some (same_answers h.routes)
      · exact .none
    exact ⟨h.id, h.kind, h.title, h.text ▸ Json.rel_refl _, h.required,
      h.options ▸ Json.rel_refl _, hmeta⟩

/-- **Pages are written in the same way just if they are equal**, except for how it is said that
    there are no routes. -/
theorem wire_eq_iff : p.wire = q.wire ↔ p.settled = q.settled := by
  constructor
  · intro h
    have hsame : p.Same q := same_wire_iff.1 (h ▸ Json.Same.refl p.wire)
    have htable : p.table = q.table := by
      rw [← Option.some.injEq, ← tableOf_wire, ← tableOf_wire, h]
    unfold Page.settled
    rw [htable, hsame.id, hsame.kind, hsame.title, hsame.text, hsame.required, hsame.options]
  · intro h
    rw [← wire_settled p, h, wire_settled]

end Same

/-- **Everything in a page can be read off what is written for it**, except that no routes are
    written like a wildcard that leads nowhere.  So a page that has nothing to offer, one that
    offers no answers and one that offers a range of numbers are told apart, and a page without a
    text from one with the empty text. -/
theorem page_recovered :
    (∀ p : Page, tableOf p.wire = some (if p.routing = [] then [("*", [])] else p.routing)) ∧
      (∀ p q : Page, p.wire = q.wire ↔ p.settled = q.settled) ∧
      ∀ p q : Page, Json.Same p.wire q.wire ↔ p.Same q :=
  ⟨tableOf_wire, fun _ _ => wire_eq_iff, fun _ _ => same_wire_iff⟩

end ChatRelay.Survey
