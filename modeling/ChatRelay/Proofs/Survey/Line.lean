/-
  The line of pages that a survey is.

  Pages are looked at through a `View`, which says what stands in a page: there is
  one of pages and one of what is written for them, and a page shows the same in
  both (`comap_written`).  `IsLine` says that pages form the line of a survey, of
  any sort of pages.

  * `isLine_compile`: the pages made of questions do;
  * `IsLine.map`: what is written for pages that do does, too;
  * `survey_line`: both, for the pages and for the survey in the message.
-/
import ChatRelay.Proofs.Envelope.Building
import ChatRelay.Proofs.Sequence
import Mathlib.Data.List.Chain
import Mathlib.Data.List.Nodup
import Std.Data.String.ToNat

namespace ChatRelay

/-- The field of an object. -/
def Json.field? (v : Json) (name : String) : Option Json := v.fields?.bind (Json.get? · name)

/-- The items of an array. -/
def Json.items? : Json → Option (List Json)
  | .array vs => some vs
  | _ => none

/-- The flag itself. -/
def Json.flag? : Json → Option Bool
  | .bool b => some b
  | _ => none

namespace Survey

/-! ## Views -/

/-- What stands in a page. -/
@[ext] structure View (α : Type) where
  id : α → Option String
  title : α → Option String
  text : α → Option String
  required : α → Option Bool
  /-- the targets of all routes -/
  targets : α → List String
  /-- the first target of the wildcard -/
  next : α → Option String

/-- The view of pages. -/
def View.page : View Page where
  id p := some p.id
  title p := some p.title
  text p := p.text
  required p := some p.required
  targets p := p.routing.flatMap (·.2)
  next p := (p.routing.lookup "*").bind List.head?

/-- The id that a written target names. -/
def targetId? (v : Json) : Option String := (v.field? "id").bind Json.text?

/-- The written routing table. -/
def answersOf (v : Json) : Option Json := (v.field? "meta").bind (·.field? "answers")

/-- The written targets of the wildcard. -/
def wildcardOf (v : Json) : Option (List Json) :=
  ((answersOf v).bind (·.field? "*")).bind Json.items?

/-- The view of written pages. -/
def View.written : View Json where
  id v := (v.field? "id").bind Json.text?
  title v := (v.field? "title").bind Json.text?
  text v := (v.field? "text").bind Json.text?
  required v := (v.field? "required").bind Json.flag?
  targets v := (((answersOf v).bind Json.fields?).getD []).flatMap fun r =>
    (r.2.items?.getD []).filterMap targetId?
  next v := ((wildcardOf v).bind List.head?).bind targetId?

/-- The view of things that stand for what is viewed. -/
def View.comap {α β : Type} (f : α → β) (V : View β) : View α where
  id := V.id ∘ f
  title := V.title ∘ f
  text := V.text ∘ f
  required := V.required ∘ f
  targets := V.targets ∘ f
  next := V.next ∘ f

section Written

variable (p : Page)

/-- The fields of a written page. -/
theorem fields_wire : p.wire.field? "id" = some (.text p.id) ∧
    p.wire.field? "title" = some (.text p.title) ∧ p.wire.field? "text" = p.text.map .text ∧
    p.wire.field? "required" = some (.bool p.required) ∧
    answersOf p.wire = some (.object p.answers) := by
  unfold Page.wire answersOf
  cases p.text <;> cases p.options <;> exact ⟨rfl, rfl, rfl, rfl, rfl⟩

theorem filterMap_targetWire (targets : List String) :
    (targets.map targetWire).filterMap targetId? = targets := by
  rw [List.filterMap_map]
  exact List.filterMap_some

theorem lookup_map_targetWire (routing : List (String × List String)) (answer : String) :
    Json.get? (routing.map fun r => (r.1, .array (r.2.map targetWire))) answer =
      (routing.lookup answer).map fun targets => .array (targets.map targetWire) := by
  induction routing with
  | nil => rfl
  | cons r routing ih =>
    obtain ⟨key, targets⟩ := r
    rw [List.map_cons, Json.get?_cons, ih, List.lookup_cons]
    by_cases h : answer = key
    · simp [h]
    · have h' : (answer == key) = false := by simpa using h
      simp [h, h']

/-- The wildcard of a written page lists the targets of the wildcard, none if the page has no
    routes at all. -/
theorem wildcardOf_wire : wildcardOf p.wire =
    if p.routing = [] then some [] else (p.routing.lookup "*").map (·.map targetWire) := by
  rw [wildcardOf, (fields_wire p).2.2.2.2]
  cases hr : p.routing with
  | nil => simp [Page.answers, hr]; rfl
  | cons r routing =>
    have hanswers : p.answers = p.routing.map fun r => (r.1, .array (r.2.map targetWire)) := by
      simp [Page.answers, hr]
    change (Json.get? p.answers "*").bind Json.items? = _
    rw [hanswers, lookup_map_targetWire, hr, if_neg (List.cons_ne_nil r routing)]
    cases (r :: routing).lookup "*" <;> rfl

/-- **A page shows the same before and after it is written.** -/
theorem comap_written : View.written.comap Page.wire = View.page := by
  ext1 <;> funext p <;> obtain ⟨hid, htitle, htext, hrequired, hanswers⟩ := fields_wire p <;>
    simp only [View.comap, View.written, View.page, Function.comp]
  · rw [hid]
    rfl
  · rw [htitle]
    rfl
  · rw [htext]
    cases p.text <;> rfl
  · rw [hrequired]
    rfl
  · rw [hanswers]
    change p.answers.flatMap _ = _
    cases hr : p.routing with
    | nil => simp [Page.answers, hr, Json.items?]
    | cons r routing =>
      simp only [Page.answers, hr, List.isEmpty_cons, Bool.false_eq_true, if_false,
        List.flatMap_map, Json.items?, Option.getD_some, filterMap_targetWire]
  · rw [wildcardOf_wire]
    cases hr : p.routing with
    | nil => rfl
    | cons r routing =>
      rw [if_neg (List.cons_ne_nil r routing)]
      cases (r :: routing).lookup "*" with
      | none => rfl
      | some targets => cases targets <;> rfl

end Written

/-! ## Lines -/

section Line

variable {α β : Type}

/-- Going from one thing to the next passes the things of the list, in its order, and stops
    after the last. -/
inductive Trail (next : α → Option α) : α → List α → Prop
  | stop {x : α} : next x = none → Trail next x [x]
  | step {x y : α} {rest : List α} : next x = some y → Trail next y rest →
      Trail next x (x :: rest)

/-- The page that the wildcard of a page leads to. -/
def View.follow (V : View α) (pages : List α) (p : α) : Option α :=
  (V.next p).bind fun id => pages.find? fun q => V.id q = some id

/-- The pages are the line of a survey: one page for each question and one at the end, with the
    ids `q-1`, `q-2`, ... and `end`, no two the same.  Whatever a page leads to is among them, and
    only the last page leads nowhere.  The wildcard leads from the first page through all of them
    in order.  A page has the title and the flag of its question, the last one the texts. -/
structure IsLine (V : View α) (qs : List Question) (message : String)
    (description : Option String) (pages : List α) : Prop where
  length : pages.length = qs.length + 1
  ids : pages.map V.id =
    (List.range qs.length).map (fun k => some s!"q-{k + 1}") ++ [some "end"]
  distinct : (pages.map V.id).Nodup
  leads : ∀ p ∈ pages, ∀ id ∈ V.targets p, ∃ q ∈ pages, V.id q = some id
  ends : ∀ p ∈ pages, V.targets p = [] ↔ V.id p = some "end"
  passed : ∃ first, pages.head? = some first ∧ Trail (V.follow pages) first pages
  asked : ∀ (k : Nat) (q : Question), qs[k]? = some q →
    ∃ p, pages[k]? = some p ∧ V.title p = some q.title ∧ V.required p = some q.required
  closed : ∃ p, pages.getLast? = some p ∧ V.id p = some "end" ∧ V.title p = some message ∧
    V.text p = description

theorem Trail.map {f : α → β} {next : α → Option α} {next' : β → Option β}
    (hf : ∀ x, next' (f x) = (next x).map f) {x : α} {xs : List α} (h : Trail next x xs) :
    Trail next' (f x) (xs.map f) := by
  induction h with
  | stop hx => exact .stop (by rw [hf, hx]; rfl)
  | step hx _ ih => exact .step (by rw [hf, hx]; rfl) ih

theorem follow_map (V : View β) (f : α → β) (pages : List α) (p : α) :
    V.follow (pages.map f) (f p) = ((V.comap f).follow pages p).map f := by
  simp only [View.follow, View.comap, Function.comp]
  cases V.next (f p) with
  | none => rfl
  | some id =>
    simp only [Option.bind_some, List.find?_map]
    rfl

/-- **What stands for the pages of a line is a line.** -/
theorem IsLine.map {V : View β} {f : α → β} {qs : List Question} {message : String}
    {description : Option String} {pages : List α}
    (h : IsLine (V.comap f) qs message description pages) :
    IsLine V qs message description (pages.map f) where
  length := by rw [List.length_map, h.length]
  ids := by rw [List.map_map]; exact h.ids
  distinct := by rw [List.map_map]; exact h.distinct
  leads := by
    intro _ hfp id hid
    obtain ⟨p, hp, rfl⟩ := List.mem_map.1 hfp
    obtain ⟨q, hq, hqid⟩ := h.leads p hp id hid
    exact ⟨f q, List.mem_map_of_mem hq, hqid⟩
  ends := by
    intro _ hfp
    obtain ⟨p, hp, rfl⟩ := List.mem_map.1 hfp
    exact h.ends p hp
  passed := by
    obtain ⟨first, hfirst, htrail⟩ := h.passed
    exact ⟨f first, by rw [List.head?_map, hfirst]; rfl, htrail.map (follow_map V f pages)⟩
  asked := by
    intro k q hq
    obtain ⟨p, hp, htitle, hrequired⟩ := h.asked k q hq
    exact ⟨f p, by rw [List.getElem?_map, hp]; rfl, htitle, hrequired⟩
  closed := by
    obtain ⟨p, hp, hid, htitle, htext⟩ := h.closed
    exact ⟨f p, by rw [List.getLast?_map, hp]; rfl, hid, htitle, htext⟩

/-- A chain is passed from its start to its end. -/
theorem trail_of_isChain {next : α → Option α} {x : α} {xs : List α}
    (hchain : (x :: xs).IsChain fun a b => next a = some b)
    (hlast : ∀ y, (x :: xs).getLast? = some y → next y = none) : Trail next x (x :: xs) := by
  induction xs generalizing x with
  | nil => exact .stop (hlast x rfl)
  | cons y ys ih =>
    obtain ⟨hxy, hchain⟩ := List.isChain_cons_cons.1 hchain
    exact .step hxy (ih hchain fun z hz => hlast z (by rw [List.getLast?_cons_cons, hz]))

/-- What is in a chain ends it or has a successor in it. -/
theorem getLast?_or_succ_of_isChain {R : α → α → Prop} {xs : List α} (h : xs.IsChain R) {x : α}
    (hx : x ∈ xs) : xs.getLast? = some x ∨ ∃ y ∈ xs, R x y := by
  induction h with
  | nil => nomatch hx
  | singleton z =>
    obtain rfl := List.mem_singleton.1 hx
    exact .inl rfl
  | @cons_cons a b l hab _ ih =>
    rcases List.mem_cons.1 hx with rfl | hx
    · exact .inr ⟨b, List.mem_cons_of_mem _ List.mem_cons_self, hab⟩
    · rcases ih hx with hlast | ⟨y, hy, hxy⟩
      · exact .inl (by rw [List.getLast?_cons_cons, hlast])
      · exact .inr ⟨y, List.mem_cons_of_mem _ hy, hxy⟩

end Line

/-! ## The pages of questions -/

section Pages

theorem pageId_eq (k : Nat) : pageId k = s!"q-{k + 1}" := rfl

theorem pageId_inj {j k : Nat} : pageId j = pageId k ↔ j = k := by
  rw [pageId_eq, pageId_eq]
  constructor
  · intro h
    have hrepr : Nat.repr (j + 1) = Nat.repr (k + 1) := (String.append_right_inj _).1 h
    exact Nat.succ.inj (Nat.repr_inj.1 hrepr)
  · rintro rfl
    rfl

theorem pageId_ne_endPage (k : Nat) : pageId k ≠ endPage := by
  intro h
  have hlist := congrArg String.toList h
  simp [pageId, endPage] at hlist

variable (last : Page)

theorem ids_pagesFrom (index : Nat) (qs : List Question) : (pagesFrom last index qs).map Page.id =
    (List.range' index qs.length).map (fun k : Nat => pageId k) ++ [last.id] := by
  fun_induction pagesFrom last index qs with
  | case1 => rfl
  | case2 => rfl
  | case3 index q rest _ ih =>
    rw [List.map_cons, ih, List.length_cons, List.range'_succ]
    rfl

theorem nodup_ids_pagesFrom (hlast : last.id = endPage) (index : Nat) (qs : List Question) :
    ((pagesFrom last index qs).map Page.id).Nodup := by
  rw [ids_pagesFrom, List.nodup_append, hlast]
  refine ⟨List.Nodup.map (fun _ _ h => pageId_inj.1 h) List.nodup_range', List.nodup_singleton _,
    ?_⟩
  rintro _ hid _ hend rfl
  obtain ⟨k, _, hk⟩ := List.mem_map.1 hid
  exact pageId_ne_endPage k (hk.trans (List.mem_singleton.1 hend))

theorem head?_id_pagesFrom (index : Nat) {qs : List Question} (hqs : qs ≠ []) :
    (pagesFrom last index qs).head?.map Page.id = some (pageId index) := by
  obtain ⟨q, rest, rfl⟩ := List.exists_cons_of_ne_nil hqs
  rw [← List.head?_map, ids_pagesFrom, List.length_cons, List.range'_succ]
  rfl

theorem getLast?_pagesFrom (index : Nat) (qs : List Question) :
    (pagesFrom last index qs).getLast? = some last := by
  fun_induction pagesFrom last index qs with
  | case1 => rfl
  | case2 => rfl
  | case3 index q rest _ ih => rw [List.getLast?_cons, ih]; rfl

/-- Every page leads to the next one, whatever the answer. -/
theorem isChain_pagesFrom (index : Nat) (qs : List Question) :
    (pagesFrom last index qs).IsChain fun a b => a.routing = [(wildcard, [b.id])] := by
  fun_induction pagesFrom last index qs with
  | case1 => exact .singleton _
  | case2 => exact .cons_cons rfl (.singleton _)
  | case3 index q rest hne ih =>
    have hrest : rest ≠ [] := by rintro rfl; exact hne rfl
    refine List.isChain_cons.2 ⟨fun p hp => ?_, ih⟩
    have hhead := head?_id_pagesFrom last (index + 1) hrest
    rw [Option.mem_def.1 hp] at hhead
    rw [Option.some.inj hhead]
    rfl

/-- The page for the question at a place leads to the next one, or to the last page. -/
theorem getElem?_pagesFrom (index : Nat) (qs : List Question) {k : Nat} {q : Question}
    (hq : qs[k]? = some q) : (pagesFrom last index qs)[k]? = some (questionPage (index + k)
      (if k + 1 < qs.length then pageId ((index + k + 1 : Nat) : Int) else last.id) q) := by
  fun_induction pagesFrom last index qs generalizing k with
  | case1 => nomatch hq
  | case2 index q' =>
    cases k with
    | zero => cases hq; rfl
    | succ k => nomatch hq
  | case3 index q' rest hne ih =>
    cases k with
    | zero =>
      have hlength : 0 < rest.length := List.length_pos_iff.2 fun h => hne h
      cases hq
      simp [hlength]
    | succ k =>
      have hplace : index + (k + 1) = index + 1 + k := by omega
      simp only [List.getElem?_cons_succ] at hq ⊢
      rw [ih hq, hplace]
      simp

end Pages

/-! ## The line of a survey -/

section Compile

variable (qs : List Question) (message : String) (description : Option String)

variable {qs message description} in
theorem eq_of_id_eq {p p' : Page} (hp : p ∈ compile qs message description)
    (hp' : p' ∈ compile qs message description) (hid : p.id = p'.id) : p = p' :=
  List.inj_on_of_nodup_map (nodup_ids_pagesFrom _ rfl 0 qs) hp hp' hid

variable {qs message description} in
/-- A page is the last one or leads to one of the pages. -/
theorem completion_or_leads {p : Page} (hp : p ∈ compile qs message description) :
    p = completionPage message description ∨
      ∃ q ∈ compile qs message description, p.routing = [(wildcard, [q.id])] := by
  rcases getLast?_or_succ_of_isChain (isChain_pagesFrom _ 0 qs) hp with h | h
  · exact .inl (Option.some.inj (h.symm.trans (getLast?_pagesFrom _ 0 qs)))
  · exact .inr h

variable {qs message description} in
theorem follow_compile {p p' : Page} (hp' : p' ∈ compile qs message description)
    (hrouting : p.routing = [(wildcard, [p'.id])]) :
    View.page.follow (compile qs message description) p = some p' := by
  have hnext : View.page.next p = some p'.id := by simp [View.page, hrouting, wildcard]
  have hfound : ((compile qs message description).find?
      fun q => View.page.id q = some p'.id).isSome := by
    rw [List.find?_isSome]
    exact ⟨p', hp', decide_eq_true rfl⟩
  obtain ⟨q, hq⟩ := Option.isSome_iff_exists.1 hfound
  have hid : View.page.id q = some p'.id := by simpa using List.find?_some hq
  rw [View.follow, hnext, Option.bind_some, hq,
    eq_of_id_eq (List.mem_of_find?_eq_some hq) hp' (Option.some.inj hid)]

/-- **The pages made of questions are the line of a survey.** -/
theorem isLine_compile :
    IsLine View.page qs message description (compile qs message description) := by
  set pages := compile qs message description with hpages
  have hchain : pages.IsChain fun a b => a.routing = [(wildcard, [b.id])] :=
    isChain_pagesFrom _ 0 qs
  have hlast : pages.getLast? = some (completionPage message description) :=
    getLast?_pagesFrom _ 0 qs
  have hids : pages.map View.page.id = (pages.map Page.id).map some := by
    rw [List.map_map]
    rfl
  constructor
  case length =>
    have hlength := congrArg List.length
      (ids_pagesFrom (completionPage message description) 0 qs)
    simpa [hpages, compile] using hlength
  case ids =>
    rw [hids, hpages, compile, ids_pagesFrom, List.map_append, List.map_map, List.range_eq_range']
    rfl
  case distinct =>
    rw [hids]
    exact List.Nodup.map (fun _ _ => Option.some.inj) (nodup_ids_pagesFrom _ rfl 0 qs)
  case leads =>
    intro p hp id hid
    rcases completion_or_leads hp with rfl | ⟨q, hq, hrouting⟩
    · nomatch hid
    · refine ⟨q, hq, congrArg some ?_⟩
      simpa [View.page, hrouting, eq_comm] using hid
  case ends =>
    intro p hp
    rcases completion_or_leads hp with rfl | ⟨q, hq, hrouting⟩
    · exact ⟨fun _ => rfl, fun _ => rfl⟩
    · have htargets : View.page.targets p = [q.id] := by simp [View.page, hrouting]
      rw [htargets]
      refine ⟨nofun, fun hid => ?_⟩
      have hend : completionPage message description ∈ pages := List.mem_of_getLast? hlast
      have heq := eq_of_id_eq hp hend (Option.some.inj hid)
      rw [heq] at hrouting
      nomatch hrouting
  case passed =>
    have hroute : pages.IsChain fun a b => View.page.follow pages a = some b :=
      hchain.imp_of_mem_imp fun _ _ _ hq hrouting => follow_compile hq hrouting
    have hstop : ∀ p, pages.getLast? = some p → View.page.follow pages p = none := by
      intro p hp
      obtain rfl := Option.some.inj (hp.symm.trans hlast)
      rfl
    obtain ⟨first, rest, hcons⟩ : ∃ first rest, pages = first :: rest :=
      List.exists_cons_of_ne_nil (List.ne_nil_of_mem (List.mem_of_getLast? hlast))
    refine ⟨first, by rw [hcons]; rfl, ?_⟩
    generalize View.page.follow pages = next at hroute hstop ⊢
    rw [hcons] at hroute hstop ⊢
    exact trail_of_isChain hroute hstop
  case asked =>
    intro k q hq
    exact ⟨_, getElem?_pagesFrom (completionPage message description) 0 qs hq, rfl, rfl⟩
  case closed => exact ⟨_, hlast, rfl, rfl, rfl⟩

/-- What is written for a page has no target for the wildcard just if it is the last. -/
theorem wildcardOf_compile_iff {p : Page} (hp : p ∈ compile qs message description) :
    wildcardOf p.wire = some [] ↔ p.id = endPage := by
  rw [wildcardOf_wire]
  rcases completion_or_leads hp with rfl | ⟨q, hq, hrouting⟩
  · exact ⟨fun _ => rfl, fun _ => rfl⟩
  · have hne : p.id ≠ endPage := by
      intro hid
      have hend : completionPage message description ∈ compile qs message description :=
        List.mem_of_getLast? (getLast?_pagesFrom _ 0 qs)
      rw [eq_of_id_eq hp hend hid] at hrouting
      nomatch hrouting
    simp [hrouting, wildcard, hne]

/-- The message that carries a survey has one item, and it has the written pages. -/
theorem exec_buildSurvey_text (c : Conditions) (session title : String) (pages : List Page)
    (h : History) : ∃ e h' i, exec (buildSurvey c (.text session) (.text title) pages) h =
        (.ok e, h') ∧ Json.get? e.wire "richContent" = some (.array [i]) ∧
      i.field? "type" = some (.text "survey") ∧
      i.field? "pages" = some (.array (pages.map Page.wire)) :=
  ⟨.ofSurvey session c.stamp title pages, _, _, adds_buildSurvey c _ _ pages h, rfl, rfl, rfl⟩

/-- The questions are read before the pages are made, if the texts are texts. -/
theorem readPages_text (questions : List Json) (message : String) (description : Option String) :
    readPages questions (.text message) (Json.ofText? description) =
      (questions.mapM Question.read).map fun qs => compile qs message description := by
  unfold readPages
  cases questions.mapM Question.read with
  | error f => rfl
  | ok qs => cases description <;> rfl

/-- **A survey is the line of its questions, and so is what the message writes for it**: its one
    item has the pages as they are written, in order, and only at the end of the line the
    wildcard has no target. -/
theorem survey_line (questions : List Json) :
    readPages questions (.text message) (Json.ofText? description) =
        (questions.mapM Question.read).map (fun qs => compile qs message description) ∧
      ∀ qs, IsLine View.page qs message description (compile qs message description) ∧
        ∀ c session title h, ∃ e h' i ws,
          exec (buildSurvey c (.text session) (.text title) (compile qs message description)) h =
            (.ok e, h') ∧
          Json.get? e.wire "richContent" = some (.array [i]) ∧
          i.field? "type" = some (.text "survey") ∧ i.field? "pages" = some (.array ws) ∧
          ws = (compile qs message description).map Page.wire ∧
          IsLine View.written qs message description ws ∧
          ∀ w ∈ ws, wildcardOf w = some [] ↔ View.written.id w = some "end" := by
  refine ⟨readPages_text questions message description,
    fun qs => ⟨isLine_compile qs message description, fun c session title h => ?_⟩⟩
  obtain ⟨e, h', i, hbuild, hcontent, htype, hpages⟩ :=
    exec_buildSurvey_text c session title (compile qs message description) h
  refine ⟨e, h', i, _, hbuild, hcontent, htype, hpages, rfl, ?_, ?_⟩
  · apply IsLine.map
    rw [comap_written]
    exact isLine_compile qs message description
  · intro w hw
    obtain ⟨p, hp, rfl⟩ := List.mem_map.1 hw
    have hid : View.written.id p.wire = some p.id := congrArg (View.id · p) comap_written
    rw [wildcardOf_compile_iff qs message description hp, hid, Option.some.injEq]
    rfl

end Compile

end Survey

end ChatRelay
