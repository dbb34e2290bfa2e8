import TestRollup.Proofs.DecimalValue
import TestRollup.Proofs.Spreading

/- The two marks of a decimal number. Whether a report has a point or a comma in its times
   is up to the locale of the machine that wrote it. `pointed` writes every comma as a
   point: in a text, in the times of a tree, and in the times that a fault or a warning
   quotes.

   Reading a number does not tell the two marks apart (`readDecimal?_pointed`), nor does
   looking for the colon of a time of day. Hence writing points passes through counting: a
   tree with points in its times comes to what the tree itself comes to, with points in
   what is quoted (`countDocument_pointed`). This is shown of the fields first, and kept by
   doing one thing after the other and by the sum over a tree.

   Reports whose trees are equal once their times have points therefore come to the same
   (`countText_of_marks`), whichever of the times were written with points to see it. -/
namespace TestRollup

/-! ## Numbers -/

namespace Number

/-- A point in place of a comma; any other character stays. -/
def pointed (c : Char) : Char := if c = ',' then '.' else c

theorem pointed_of_ne {c : Char} (h : c ≠ ',') : pointed c = c := if_neg h

/-- What does not tell the two marks apart has the same to say of the pointed character. -/
theorem apply_pointed {α : Sort*} {p : Char → α} (h : p '.' = p ',') (c : Char) :
    p (pointed c) = p c := by
  by_cases hc : c = ','
  · rw [hc]
    exact h
  · rw [pointed_of_ne hc]

theorem pointed_comp_pointed : pointed ∘ pointed = pointed :=
  funext fun c => apply_pointed (p := pointed) (by decide) c

theorem isBlank_pointed : Text.isBlank ∘ pointed = Text.isBlank :=
  funext fun c => apply_pointed (p := Text.isBlank) (by decide) c

theorem isSeparator_pointed : (!isSeparator ·) ∘ pointed = (!isSeparator ·) :=
  funext fun c => apply_pointed (p := (!isSeparator ·)) (by decide) c

theorem isDigit_pointed : Char.isDigit ∘ pointed = Char.isDigit :=
  funext fun c => apply_pointed (p := Char.isDigit) (by decide) c

theorem trim_pointed (cs : List Char) : Text.trim (cs.map pointed) = (Text.trim cs).map pointed := by
  simp only [Text.trim, Text.trimRight, List.dropWhile_map, isBlank_pointed, ← List.map_reverse]

theorem splitAtSeparator_pointed (cs : List Char) :
    splitAtSeparator (cs.map pointed) =
      ((splitAtSeparator cs).1.map pointed, (splitAtSeparator cs).2.map pointed) := by
  simp only [splitAtSeparator, List.takeWhile_map, List.dropWhile_map, isSeparator_pointed,
    List.map_drop]

theorem allDigits_pointed (cs : List Char) : allDigits (cs.map pointed) = allDigits cs := by
  simp only [allDigits, List.all_map, isDigit_pointed]

theorem map_pointed_of_digits {cs : List Char} (h : allDigits cs = true) :
    cs.map pointed = cs := by
  refine List.map_congr_left (fun c hc => pointed_of_ne ?_) |>.trans (List.map_id cs)
  rintro rfl
  exact absurd (allDigits_iff.mp h _ hc) (by decide)

/-- Point and comma are read alike. -/
theorem readDecimal?_pointed (cs : List Char) : readDecimal? (cs.map pointed) = readDecimal? cs := by
  unfold readDecimal?
  rw [trim_pointed, splitAtSeparator_pointed]
  rcases splitAtSeparator (Text.trim cs) with ⟨whole, fraction⟩
  simp only [List.isEmpty_map, allDigits_pointed]
  split
  · rfl
  · split
    · rfl
    · next hplain =>
      have hdigits : allDigits whole = true ∧ allDigits fraction = true := by simpa using hplain
      rw [map_pointed_of_digits hdigits.1, map_pointed_of_digits hdigits.2]

end Number

open Number (pointed readDecimal? readDecimal?_pointed)

/-! ## Trees -/

namespace Xml

/-- The names of attributes that give a time, in one dialect or the other. -/
def Name.ofTime (n : Name) : Bool := n.localName == "time" || n.localName == "duration"

/-- The choice of all names. -/
def Name.any : Name → Bool := fun _ => true

/-- The attribute with points in its value if it gives a time and is one of those chosen. -/
def Attribute.pointed (chosen : Name → Bool) (a : Attribute) : Attribute :=
  if chosen a.name && a.name.ofTime then { a with value := a.value.map Number.pointed } else a

namespace Element

mutual

/-- The tree with points in the chosen ones of its times. -/
def pointed (chosen : Name → Bool) : Element → Element
  | ⟨name, attributes, children⟩ =>
    ⟨name, attributes.map (Attribute.pointed chosen), pointedAll chosen children⟩

/-- The trees of a list, each with points in the chosen ones of its times. -/
def pointedAll (chosen : Name → Bool) : List Element → List Element
  | [] => []
  | e :: es => pointed chosen e :: pointedAll chosen es

end

theorem pointedAll_eq_map (chosen : Name → Bool) (es : List Element) :
    pointedAll chosen es = es.map (pointed chosen) := by
  induction es with
  | nil => rfl
  | cons e es ih => rw [pointedAll, ih, List.map_cons]

theorem pointed_mk (chosen : Name → Bool) (name : Name) (attributes : List Attribute)
    (children : List Element) :
    pointed chosen ⟨name, attributes, children⟩ =
      ⟨name, attributes.map (Attribute.pointed chosen), children.map (pointed chosen)⟩ := by
  rw [pointed, pointedAll_eq_map]

end Element

theorem Attribute.name_pointed (chosen : Name → Bool) (a : Attribute) :
    (a.pointed chosen).name = a.name := by
  unfold pointed
  split <;> rfl

/-- Points in all times leave no trace of which times had points before. -/
theorem Attribute.pointed_pointed (chosen : Name → Bool) (a : Attribute) :
    (a.pointed chosen).pointed Name.any = a.pointed Name.any := by
  unfold pointed Name.any
  cases hchosen : chosen a.name <;> cases htime : a.name.ofTime <;>
    simp [htime, Number.pointed_comp_pointed]

namespace Element

theorem tag_pointed (chosen : Name → Bool) (e : Element) : (e.pointed chosen).tag = e.tag := by
  cases e
  rfl

theorem children_pointed (chosen : Name → Bool) (e : Element) :
    (e.pointed chosen).children = e.children.map (pointed chosen) := by
  cases e
  rw [pointed_mk]

theorem childrenTagged_pointed (chosen : Name → Bool) (e : Element) (tag : String) :
    (e.pointed chosen).childrenTagged tag = (e.childrenTagged tag).map (pointed chosen) := by
  have htagged : (·.hasTag tag) ∘ pointed chosen = (·.hasTag tag) := by
    funext c
    simp only [Function.comp_apply, hasTag, tag_pointed]
  rw [childrenTagged, children_pointed, List.filter_map, htagged, childrenTagged]

theorem attribute?_pointed (e : Element) (key : String) :
    (e.pointed Name.any).attribute? key =
      if key = "time" ∨ key = "duration" then (e.attribute? key).map (·.map Number.pointed)
      else e.attribute? key := by
  obtain ⟨name, attributes, children⟩ := e
  have hname : (fun a : Attribute => a.name.localName == key) ∘ Attribute.pointed Name.any =
      fun a => a.name.localName == key := by
    funext a
    simp only [Function.comp_apply, Attribute.name_pointed]
  rw [pointed_mk, attribute?, attribute?, List.find?_map, hname]
  cases hfound : attributes.find? fun a => a.name.localName == key with
  | none => simp
  | some a =>
    have hkey : a.name.localName = key := by simpa using List.find?_some hfound
    simp only [Option.map_some, Attribute.pointed, Name.any, Name.ofTime, hkey, Bool.true_and,
      Bool.or_eq_true, beq_iff_eq]
    split <;> rfl

mutual

/-- Points in all times leave no trace of which times had points before. -/
theorem pointed_pointed (chosen : Name → Bool) :
    ∀ e : Element, (e.pointed chosen).pointed Name.any = e.pointed Name.any
  | ⟨name, attributes, children⟩ => by
    have hattributes : (attributes.map (Attribute.pointed chosen)).map
        (Attribute.pointed Name.any) = attributes.map (Attribute.pointed Name.any) := by
      rw [List.map_map]
      exact List.map_congr_left fun a _ => Attribute.pointed_pointed chosen a
    rw [pointed, pointed, pointed, hattributes,
      pointedAll_pointedAll chosen children]

theorem pointedAll_pointedAll (chosen : Name → Bool) :
    ∀ es : List Element,
      pointedAll Name.any (pointedAll chosen es) = pointedAll Name.any es
  | [] => rfl
  | e :: es => by
    rw [pointedAll, pointedAll, pointedAll, pointed_pointed chosen e,
      pointedAll_pointedAll chosen es]

end

mutual

theorem preorder_pointed (chosen : Name → Bool) :
    ∀ e : Element, (e.pointed chosen).preorder = e.preorder.map (pointed chosen)
  | ⟨name, attributes, children⟩ => by
    rw [pointed, preorder, preorder, List.map_cons, pointed, preorderAll_pointedAll chosen children]

theorem preorderAll_pointedAll (chosen : Name → Bool) :
    ∀ es : List Element, preorderAll (pointedAll chosen es) = (preorderAll es).map (pointed chosen)
  | [] => rfl
  | e :: es => by
    rw [pointedAll, preorderAll, preorderAll, List.map_append, preorder_pointed chosen e,
      preorderAll_pointedAll chosen es]

end

end Element

end Xml
namespace Report

open Xml (Element Name)

/-! ## What is quoted -/

/-- The cause with points in the time that it quotes. -/
def Cause.pointed : Cause → Cause
  | .invalidDecimal field value => .invalidDecimal field (value.map Number.pointed)
  | c => c

/-- The fault with points in the time that it quotes. -/
def Fault.pointed (f : Fault) : Fault := { f with cause := f.cause.pointed }

/-- The event with points in the time that a warning quotes. -/
def Event.pointed : Event → Event
  | .clockOnly path time => .clockOnly path (time.map Number.pointed)
  | event => event

/-- The work with points in all times that are quoted on the way and in the end. -/
def Logged.pointed {α : Type} (x : Logged Cause α) : Logged Cause α where
  events := x.events.map Event.pointed
  outcome := x.outcome.mapError Cause.pointed

theorem mapError_bind {ε δ α β : Type} (f : ε → δ) (x : Except ε α) (g : α → Except ε β) :
    (x >>= g).mapError f = x.mapError f >>= fun a => (g a).mapError f := by
  cases x <;> rfl

namespace Logged

variable {α β : Type}

theorem pointed_bind (x : Logged Cause α) (f : α → Logged Cause β) :
    (x >>= f).pointed = x.pointed >>= fun a => (f a).pointed := by
  obtain ⟨events, outcome⟩ := x
  cases outcome with
  | error c => rfl
  | ok a =>
    rw [bind_of_ok rfl, bind_of_ok rfl]
    simp only [pointed, List.map_append]

theorem pointed_map (f : α → β) (x : Logged Cause α) : (f <$> x).pointed = f <$> x.pointed := by
  obtain ⟨events, outcome⟩ := x
  cases outcome <;> rfl

/-- A sum is pointed if its parts are. -/
theorem pointed_tally (read : α → Logged Cause Summary) (xs : List α) :
    (tally read xs).pointed = tally (fun x => (read x).pointed) xs := by
  induction xs with
  | nil => rfl
  | cons x xs ih =>
    rw [tally, tally, pointed_bind]
    apply congrArg (bind _)
    funext s
    rw [pointed_map, ih]

end Logged

/-! ## Fields -/

namespace Field

theorem mapError_integer (key value : String) :
    (integer key value).mapError Cause.pointed = integer key value := by
  unfold integer
  split <;> rfl

theorem mapError_required (element key : String) (value : Option String) :
    (required element key value).mapError Cause.pointed = required element key value := by
  cases value with
  | none => rfl
  | some text => exact mapError_integer key text

theorem mapError_orZero (key : String) (value : Option String) :
    (orZero key value).mapError Cause.pointed = orZero key value := by
  cases value with
  | none => rfl
  | some text => exact mapError_integer key text

theorem mapError_sumOnto (total : Counter) (fields : List (String × Option String)) :
    (sumOnto total fields).mapError Cause.pointed = sumOnto total fields := by
  induction fields generalizing total with
  | nil => rfl
  | cons field fields ih =>
    obtain ⟨key, value⟩ := field
    have hfield := mapError_orZero key value
    rw [sumOnto]
    cases hvalue : orZero key value with
    | error c =>
      rw [hvalue] at hfield
      exact hfield
    | ok n => exact ih (total + n)

/-- A time with points is read as the time is. -/
theorem milliseconds_pointed (key : String) (value : Option String) :
    milliseconds key (value.map (·.map pointed)) =
      (milliseconds key value).mapError Cause.pointed := by
  cases value with
  | none => rfl
  | some text =>
    simp only [Option.map_some, milliseconds, String.toList_map, readDecimal?_pointed]
    cases readDecimal? text.toList <;> rfl

theorem sumTimesOnto_pointed (key : String) (total : Option Counter)
    (values : List (Option String)) :
    sumTimesOnto key total (values.map (·.map (·.map pointed))) =
      (sumTimesOnto key total values).mapError Cause.pointed := by
  induction values generalizing total with
  | nil => rfl
  | cons value values ih =>
    rw [List.map_cons, sumTimesOnto, sumTimesOnto, milliseconds_pointed]
    cases milliseconds key value with
    | error c => rfl
    | ok time => exact ih (addTimes total time)

end Field

/-! ## Elements -/

namespace Legacy

/-- The entry with points in its times. -/
def Entry.pointed (e : Entry) : Entry :=
  { e with
    time := e.time.map (·.map Number.pointed)
    suiteTimes := e.suiteTimes.map (·.map (·.map Number.pointed)) }

theorem isClock_pointed (text : String) : Entry.isClock (text.map pointed) = Entry.isClock text := by
  have hcolon : (':' == ·) ∘ pointed = (':' == ·) :=
    funext fun c => Number.apply_pointed (p := (':' == ·)) (by decide) c
  simp only [Entry.isClock, String.toList_map, List.contains_eq_any_beq, List.any_map, hcolon]

theorem executionTime_pointed (e : Entry) :
    e.pointed.executionTime = e.executionTime.mapError Cause.pointed := by
  unfold Entry.executionTime Entry.pointed
  cases e.time with
  | none => rfl
  | some text =>
    simp only [Option.map_some, isClock_pointed]
    split
    · exact Field.sumTimesOnto_pointed "time" none e.suiteTimes
    · exact Field.milliseconds_pointed "time" (some text)

theorem figures_pointed (e : Entry) : e.pointed.figures = e.figures.mapError Cause.pointed := by
  have htime := executionTime_pointed e
  unfold Entry.figures
  simp only [mapError_bind, Field.mapError_required, Field.sum, Field.mapError_sumOnto, htime]
  rfl

theorem warnings_pointed (path : String) (e : Entry) (s : Summary) :
    e.pointed.warnings path s = (e.warnings path s).map Event.pointed := by
  unfold Entry.warnings Entry.pointed
  cases e.time with
  | none => rfl
  | some text =>
    cases s.time with
    | some ms => rfl
    | none =>
      simp only [Option.map_some, isClock_pointed]
      split <;> rfl

/-- An entry with points is counted as the entry is. -/
theorem count_pointed (path : String) (e : Entry) :
    e.pointed.count path = (e.count path).pointed := by
  unfold Entry.count
  rw [figures_pointed]
  cases e.figures with
  | error c => rfl
  | ok s =>
    simp only [Except.mapError, warnings_pointed, Logged.pointed, List.map_append]
    rfl

theorem ofElement_pointed (e : Element) :
    Entry.ofElement (e.pointed Name.any) = (Entry.ofElement e).pointed := by
  simp only [Entry.ofElement, Entry.pointed, Element.childrenTagged_pointed, List.map_map,
    Function.comp_def, Element.attribute?_pointed]
  simp

end Legacy

namespace Modern

/-- The entry with points in its duration. -/
def Entry.pointed (e : Entry) : Entry :=
  { e with duration := e.duration.map (·.map Number.pointed) }

theorem figures_pointed (e : Entry) : e.pointed.figures = e.figures.mapError Cause.pointed := by
  unfold Entry.figures
  simp only [mapError_bind, Field.mapError_required, Field.sum, Field.mapError_sumOnto,
    Field.mapError_orZero, ← Field.milliseconds_pointed]
  rfl

theorem count_pointed (e : Entry) : e.pointed.count = e.count.pointed := by
  unfold Entry.count
  rw [figures_pointed]
  cases e.figures <;> rfl

theorem ofElement_pointed (e : Element) :
    Entry.ofElement (e.pointed Name.any) = (Entry.ofElement e).pointed := by
  simp only [Entry.ofElement, Entry.pointed, Element.attribute?_pointed, Element.tag_pointed]
  simp

end Modern

/-! ## Reports -/

namespace Dialect

theorem read_pointed (d : Dialect) (path : String) (e : Element) :
    d.read path (e.pointed Name.any) = (d.read path e).pointed := by
  cases d with
  | legacy =>
    show (Legacy.Entry.ofElement (e.pointed Name.any)).count path = _
    rw [Legacy.ofElement_pointed, Legacy.count_pointed]
    rfl
  | modern =>
    show (Modern.Entry.ofElement (e.pointed Name.any)).count = _
    rw [Modern.ofElement_pointed, Modern.count_pointed]
    rfl

theorem scanned_pointed (d : Dialect) (root : Element) :
    d.scanned (root.pointed Name.any) = (d.scanned root).map (Element.pointed Name.any) := by
  cases d with
  | legacy =>
    have htagged : ((·.tag == "test-results") ∘ Element.pointed Name.any) =
        (·.tag == "test-results") := by
      funext e
      simp only [Function.comp_apply, Element.tag_pointed]
    show Legacy.results (root.pointed Name.any) = (Legacy.results root).map _
    rw [Legacy.results, Element.preorder_pointed, List.filter_map, htagged, Legacy.results]
  | modern =>
    have hgiven : ∀ key, ((root.pointed Name.any).attribute? key).isSome =
        (root.attribute? key).isSome := by
      intro key
      rw [Element.attribute?_pointed]
      split <;> simp
    show Modern.scanned (root.pointed Name.any) = (Modern.scanned root).map _
    unfold Modern.scanned Modern.lacksTotal Element.hasAttribute
    simp only [hgiven, Element.childrenTagged_pointed, List.isEmpty_map]
    split <;> rfl

theorem count_pointed (d : Dialect) (path : String) (root : Element) :
    d.count path (root.pointed Name.any) = (d.count path root).pointed := by
  rw [count_eq_tally, count_eq_tally, scanned_pointed, Logged.tally_map, Logged.pointed_tally]
  simp only [read_pointed]

end Dialect

/-- A document with points in its times is counted as the document is. -/
theorem countDocument_pointed (path : String) (root : Element) :
    countDocument path (root.pointed Name.any) = (countDocument path root).pointed := by
  have hsame := Element.tag_pointed Name.any root
  cases hroot : Dialect.ofRootTag? root.tag with
  | none =>
    have hno := Dialect.ofRootTag?_eq_none_iff.mp hroot
    rw [countDocument_of_no_dialect hno, countDocument_of_no_dialect (by rwa [hsame]), hsame]
    rfl
  | some d =>
    have htag := Dialect.ofRootTag?_eq_some_iff.mp hroot
    rw [countDocument_of_dialect htag, countDocument_of_dialect (hsame.trans htag),
      Dialect.count_pointed]
    rfl

/-- Works that are equal once they are pointed come to one value, or to causes that differ in
no more than what is quoted. -/
theorem Logged.outcome_of_pointed {α : Type} {x y : Logged Cause α} (h : x.pointed = y.pointed) :
    (∃ a, x.outcome = .ok a ∧ y.outcome = .ok a) ∨
      ∃ c c', x.outcome = .error c ∧ y.outcome = .error c' ∧ c.pointed = c'.pointed := by
  have houtcome : x.outcome.mapError Cause.pointed = y.outcome.mapError Cause.pointed :=
    congrArg Logged.outcome h
  cases hx : x.outcome with
  | error c =>
    cases hy : y.outcome with
    | error c' =>
      rw [hx, hy] at houtcome
      exact .inr ⟨c, c', rfl, rfl, Except.error.inj houtcome⟩
    | ok b =>
      rw [hx, hy] at houtcome
      cases houtcome
  | ok a =>
    cases hy : y.outcome with
    | error c' =>
      rw [hx, hy] at houtcome
      cases houtcome
    | ok b =>
      rw [hx, hy] at houtcome
      exact .inl ⟨a, rfl, congrArg Except.ok (Except.ok.inj houtcome).symm⟩

/-- Texts that are equal once their commas are points are read as the same number, or not as
one. Reports whose trees are equal once there are points in their times come to the same
summary, or to the same fault but for the time that it quotes, after the same events but for
the times in warnings. The times that are written with points to see that the trees are equal
may be any that `chosen` picks by their names, such as those without a qualifier. -/
theorem countText_of_marks :
    (∀ cs ds : List Char, cs.map pointed = ds.map pointed → readDecimal? cs = readDecimal? ds) ∧
    ∀ (chosen : Name → Bool) (text text' : String) (root root' : Element),
      documentOf? text = some root → documentOf? text' = some root' →
      root.pointed chosen = root'.pointed chosen → ∀ path,
        ((∃ s, (countText path text).outcome = .ok s ∧ (countText path text').outcome = .ok s) ∨
          ∃ f f' : Fault, (countText path text).outcome = .error f ∧
            (countText path text').outcome = .error f' ∧ f.pointed = f'.pointed) ∧
        (countText path text).events.map Event.pointed =
          (countText path text').events.map Event.pointed := by
  constructor
  · intro cs ds h
    rw [← readDecimal?_pointed cs, h, readDecimal?_pointed]
  · intro chosen text text' root root' hdocument hdocument' h path
    have hpointed : (countDocument path root).pointed = (countDocument path root').pointed := by
      rw [← countDocument_pointed, ← countDocument_pointed, ← Element.pointed_pointed chosen, h,
        Element.pointed_pointed]
    rw [countText_of_document hdocument, countText_of_document hdocument']
    refine ⟨?_, congrArg Logged.events hpointed⟩
    rcases Logged.outcome_of_pointed hpointed with ⟨s, hs, hs'⟩ | ⟨c, c', hc, hc', hcause⟩
    · exact .inl ⟨s, Logged.outcome_mapError_eq_ok_iff.mpr hs,
        Logged.outcome_mapError_eq_ok_iff.mpr hs'⟩
    · refine .inr ⟨⟨path, c⟩, ⟨path, c'⟩, Logged.outcome_mapError_eq_error_iff.mpr ⟨c, hc, rfl⟩,
        Logged.outcome_mapError_eq_error_iff.mpr ⟨c', hc', rfl⟩, ?_⟩
      exact congrArg (Fault.mk path) hcause

/-- Results that give a time of day, with results inside that give a duration. -/
def timedResults (clock seconds : String) : Element :=
  ⟨⟨"", "test-results"⟩, [⟨⟨"", "total"⟩, "2"⟩, ⟨⟨"", "errors"⟩, "0"⟩, ⟨⟨"", "failures"⟩, "1"⟩,
      ⟨⟨"", "time"⟩, clock⟩],
    [⟨⟨"", "test-results"⟩, [⟨⟨"", "total"⟩, "3"⟩, ⟨⟨"", "errors"⟩, "1"⟩,
      ⟨⟨"", "failures"⟩, "0"⟩, ⟨⟨"", "time"⟩, seconds⟩], []⟩]⟩

/-- The two reports mix the marks in a time of day and in a duration. -/
theorem countText_of_marks_mixed :
    documentOf? (textOf (timedResults "10:11:12,5" "0.25")) =
        some (timedResults "10:11:12,5" "0.25") ∧
      documentOf? (textOf (timedResults "10:11:12.5" "0,25")) =
        some (timedResults "10:11:12.5" "0,25") ∧
      (timedResults "10:11:12,5" "0.25").pointed (·.qualifier == "") =
        (timedResults "10:11:12.5" "0,25").pointed (·.qualifier == "") ∧
      (countText "/r.xml" (textOf (timedResults "10:11:12,5" "0.25"))).events.map Event.pointed =
        (countText "/r.xml" (textOf (timedResults "10:11:12.5" "0,25"))).events.map
          Event.pointed := by
  have hproper : (timedResults "10:11:12,5" "0.25").Proper := by
    refine .mk (by decide) fun results hresults => ?_
    rw [List.mem_singleton.mp hresults]
    exact .mk (by decide) (by simp)
  have hproper' : (timedResults "10:11:12.5" "0,25").Proper := by
    refine .mk (by decide) fun results hresults => ?_
    rw [List.mem_singleton.mp hresults]
    exact .mk (by decide) (by simp)
  have hdocument := documentOf?_written hproper
  have hdocument' := documentOf?_written hproper'
  have hsame : (timedResults "10:11:12,5" "0.25").pointed (·.qualifier == "") =
      (timedResults "10:11:12.5" "0,25").pointed (·.qualifier == "") := by
    have hclock : "10:11:12,5".map pointed = "10:11:12.5".map pointed := by
      rw [← String.toList_inj, String.toList_map, String.toList_map]
      decide
    have hseconds : "0.25".map pointed = "0,25".map pointed := by
      rw [← String.toList_inj, String.toList_map, String.toList_map]
      decide
    simp [timedResults, Element.pointed_mk, Xml.Attribute.pointed, Name.ofTime, hclock, hseconds]
  exact ⟨hdocument, hdocument', hsame,
    (countText_of_marks.2 _ _ _ _ _ hdocument hdocument' hsame "/r.xml").2⟩

end Report

end TestRollup
