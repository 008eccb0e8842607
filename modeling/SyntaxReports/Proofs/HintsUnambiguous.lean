import Mathlib.Data.List.Forall2
import SyntaxReports.Proofs.Hints

/-!
# Unambiguous hints: messages are found again in the text

A hint is the text of a message behind one of two openings (`Message.opening`). The lines of the hints
are found again in their text as long as no message has a newline of its own, and a line gives back
the text of its message and which opening it has (`Message.line_eq_iff`), even if a message begins
with words that look like an opening. Nothing more is to be had: the sorts of messages that share an
opening share their hints.

`Message.hints_unambiguous` says this of all hints together, and that hints are put together by a
newline, whatever the messages say.
-/

namespace SyntaxReports.Message

/-- Whether the message comes from the machinery of the parser. -/
def isSystem : Message → Bool
  | .systemUnexpected _ => true
  | _ => false

/-- What the message says. What is no message says nothing. -/
def payload : Message → String
  | .systemUnexpected text => text
  | .unexpected text => text
  | .expected text => text
  | .generic text => text
  | .foreign _ => ""

/-- The words in front of a message from the machinery of the parser, and of any other. -/
def opening (system : Bool) : String := if system then "SysUnExpect: " else "UnExpect: "

theorem line_eq {message : Message} (h : message.foreign? = none) :
    message.line = opening message.isSystem ++ message.payload := by
  cases message with
  | foreign value => cases h
  | _ => rfl

/-- An opening is told by its first letter, so nothing behind it can make it look like the other. -/
theorem opening_append_inj {system system' : Bool} {rest rest' : String}
    (h : opening system ++ rest = opening system' ++ rest') : system = system' ∧ rest = rest' := by
  have hhead := congrArg (fun text : String => text.toList.head?) h
  cases system <;> cases system'
  · exact ⟨rfl, (String.append_right_inj _).mp h⟩
  · simp [opening] at hhead
  · simp [opening] at hhead
  · exact ⟨rfl, (String.append_right_inj _).mp h⟩

theorem line_eq_iff {message message' : Message} (h : message.foreign? = none)
    (h' : message'.foreign? = none) :
    message.line = message'.line ↔
      message.payload = message'.payload ∧ message.isSystem = message'.isSystem := by
  rw [line_eq h, line_eq h']
  constructor
  · intro hlines
    obtain ⟨hsystem, hpayload⟩ := opening_append_inj hlines
    exact ⟨hpayload, hsystem⟩
  · rintro ⟨hpayload, hsystem⟩
    rw [hpayload, hsystem]

/-- Two lists of messages have the same lines if they do not differ in what lines show. -/
theorem map_line_eq_iff {xs ys : List Message} (hxs : ∀ x ∈ xs, x.foreign? = none)
    (hys : ∀ y ∈ ys, y.foreign? = none) :
    xs.map line = ys.map line ↔
      List.Forall₂ (fun x y => x.payload = y.payload ∧ x.isSystem = y.isSystem) xs ys := by
  induction xs generalizing ys with
  | nil =>
    rw [List.forall₂_nil_left_iff, List.map_nil, eq_comm, List.map_eq_nil_iff]
  | cons x xs ih =>
    obtain ⟨hx, hxs⟩ := List.forall_mem_cons.mp hxs
    cases ys with
    | nil => exact iff_of_false (List.cons_ne_nil _ _) (fun h => by cases h)
    | cons y ys =>
      obtain ⟨hy, hys⟩ := List.forall_mem_cons.mp hys
      rw [List.map_cons, List.map_cons, List.cons.injEq, line_eq_iff hx hy, ih hxs hys,
        List.forall₂_cons]

theorem text_of_ne {messages : List Message} (h : messages ≠ []) :
    text messages = Line.join (messages.map line) := by
  cases messages with
  | nil => exact absurd rfl h
  | cons message messages => rfl

/-- No hints look like the text that stands in for them: it has a first letter of its own. -/
theorem text_ne_noDetails {messages : List Message} (hknown : ∀ m ∈ messages, m.foreign? = none)
    (hne : messages ≠ []) : text messages ≠ noDetails := by
  obtain ⟨message, messages, rfl⟩ := List.exists_cons_of_ne_nil hne
  obtain ⟨rest, htext⟩ := exists_text_cons message messages
  rw [htext, line_eq (hknown message List.mem_cons_self)]
  intro h
  have hhead := congrArg (fun text : String => text.toList.head?) h
  cases hsystem : message.isSystem <;> simp [hsystem, opening, noDetails] at hhead

/-- The lines of hints are found again in their text. -/
theorem ofText_text {messages : List Message} (hne : messages ≠ [])
    (hknown : ∀ m ∈ messages, m.foreign? = none)
    (hnewline : ∀ m ∈ messages, '\n' ∉ m.payload.toList) :
    Line.ofText (text messages) = messages.map line := by
  have hopening : ∀ system, '\n' ∉ (opening system).toList := by decide
  rw [text_of_ne hne]
  refine Line.ofText_join (fun h => hne (List.map_eq_nil_iff.mp h)) ?_
  refine List.forall_mem_map.mpr fun m hm => ?_
  rw [line_eq (hknown m hm), String.toList_append, List.mem_append, not_or]
  exact ⟨hopening _, hnewline m hm⟩

/-- Hints of one line each determine what their lines show. -/
theorem text_eq_iff {xs ys : List Message} (hxs : ∀ m ∈ xs, m.foreign? = none)
    (hys : ∀ m ∈ ys, m.foreign? = none) (hnewline : ∀ m ∈ xs ++ ys, '\n' ∉ m.payload.toList) :
    text xs = text ys ↔
      List.Forall₂ (fun x y => x.payload = y.payload ∧ x.isSystem = y.isSystem) xs ys := by
  obtain ⟨hxsLines, hysLines⟩ := List.forall_mem_append.mp hnewline
  rw [← map_line_eq_iff hxs hys]
  -- no messages at all have one line and not none, so empty lists stand apart
  cases xs with
  | nil =>
    cases ys with
    | nil => exact iff_of_true rfl rfl
    | cons y ys =>
      exact iff_of_false (text_ne_noDetails hys (List.cons_ne_nil _ _)).symm
        (List.cons_ne_nil _ _).symm
  | cons x xs =>
    cases ys with
    | nil => exact iff_of_false (text_ne_noDetails hxs (List.cons_ne_nil _ _)) (List.cons_ne_nil _ _)
    | cons y ys =>
      have hx := ofText_text (List.cons_ne_nil x xs) hxs hxsLines
      have hy := ofText_text (List.cons_ne_nil y ys) hys hysLines
      rw [← hx, ← hy]
      exact ⟨congrArg Line.ofText, Line.ofText_inj⟩

theorem text_append {xs ys : List Message} (hxs : xs ≠ []) (hys : ys ≠ []) :
    text (xs ++ ys) = text xs ++ "\n" ++ text ys := by
  rw [text_of_ne hxs, text_of_ne hys, text_of_ne (List.append_ne_nil_of_left_ne_nil hxs ys),
    List.map_append, Line.join_append (fun h => hxs (List.map_eq_nil_iff.mp h))
      (fun h => hys (List.map_eq_nil_iff.mp h))]

theorem hints_eq_ok {messages : List Message} (h : ∀ m ∈ messages, m.foreign? = none) :
    hints messages = .ok (text messages) := by
  rw [hints_eq, List.filterMap_eq_nil_iff.mpr h]
  rfl

/-- **Hints can be read back.** All lists of messages have hints. If no message has a newline, then
two lists have the same hints exactly if they are of the same length and agree, message by message, on
what is said and on whether the machinery of the parser says it. The text that stands in for no hints
is that of no others, and the hints of two lists stand one below the other in those of both, whether
there are newlines in the messages or not. -/
theorem hints_unambiguous {xs ys : List Message} (hxs : ∀ m ∈ xs, m.foreign? = none)
    (hys : ∀ m ∈ ys, m.foreign? = none) :
    ∃ s t, hints xs = .ok s ∧ hints ys = .ok t ∧
      ((∀ m ∈ xs ++ ys, '\n' ∉ m.payload.toList) →
        (s = t ↔
          List.Forall₂ (fun x y => x.payload = y.payload ∧ x.isSystem = y.isSystem) xs ys)) ∧
      (xs = [] → s = noDetails ∧ (ys ≠ [] → s ≠ t)) ∧
      (xs ≠ [] → ys ≠ [] → hints (xs ++ ys) = .ok (s ++ "\n" ++ t)) := by
  refine ⟨text xs, text ys, hints_eq_ok hxs, hints_eq_ok hys, text_eq_iff hxs hys, ?_, ?_⟩
  · rintro rfl
    exact ⟨rfl, fun hne => (text_ne_noDetails hys hne).symm⟩
  · intro hxsNe hysNe
    rw [hints_eq_ok (List.forall_mem_append.mpr ⟨hxs, hys⟩), text_append hxsNe hysNe]

/-- A message that begins like a hint is not taken for one, and one that says what stands in for hints
is a hint all the same. -/
theorem hints_unambiguous_imitation :
    let xs := [systemUnexpected "UnExpect: b", expected noDetails]
    let ys := [unexpected "SysUnExpect: UnExpect: b", generic noDetails]
    ∃ s t u, hints xs = .ok s ∧ hints ys = .ok t ∧ s ≠ t ∧ hints [expected noDetails] = .ok u ∧
      noDetails ≠ u ∧ hints (xs ++ ys) = .ok (s ++ "\n" ++ t) := by
  intro xs ys
  have hxs : ∀ m ∈ xs, m.foreign? = none := by decide
  have hys : ∀ m ∈ ys, m.foreign? = none := by decide
  obtain ⟨s, t, hs, ht, hiff, -, happend⟩ := hints_unambiguous hxs hys
  have hnil : ∀ m ∈ ([] : List Message), m.foreign? = none := List.forall_mem_nil _
  have hexpected : ∀ m ∈ [expected noDetails], m.foreign? = none := by decide
  obtain ⟨s', u, -, hu, -, hempty, -⟩ := hints_unambiguous hnil hexpected
  obtain ⟨rfl, hne⟩ := hempty rfl
  refine ⟨s, t, u, hs, ht, fun hst => ?_, hu, hne (by decide), happend (by decide) (by decide)⟩
  obtain ⟨⟨hpayload, -⟩, -⟩ := List.forall₂_cons.mp ((hiff (by decide)).mp hst)
  exact absurd hpayload (by decide)

end SyntaxReports.Message
