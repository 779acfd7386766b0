import CodeAtlas.Proofs.WorkerRuns

/-!
What comes of the frames on an open connection. Texts that bring news of the graph are passed on in
their order, and others are passed over. A binary frame that is no text ends the connection, like
a failure of the transport.
-/
namespace CodeAtlas.Push

def news? (text : String) : Option PushEvent :=
  match PushEvent.parse text with
  | .ok .graphUpdated => some .graphUpdated
  | .ok (.delta d) => some (.delta d)
  | _ => none

namespace Frame

def text? : Frame → Option String
  | .text s => some s
  | .binary bytes => (Text.decodeUtf8 bytes).toOption
  | _ => none

def news? (f : Frame) : Option PushEvent := f.text?.bind Push.news?

def isGarbled : Frame → Bool
  | .binary bytes => (Text.decodeUtf8 bytes).toOption.isNone
  | _ => false

end Frame

/-- What can come to a worker while its connection is open: a frame that does not close it, or the
time for a ping, which is then sent; the clock reads so many nanoseconds after it. -/
inductive Happening where
  | frame (f : Frame) (stays : f ≠ .close)
  | ping (now : Nat)

namespace Happening

def wakes : Happening → List Wake
  | .frame f _ => (f.heard?.map Wake.heard).toList
  | .ping now => [.ticked, .sent now]

def news? : Happening → Option PushEvent
  | .frame f _ => f.news?
  | .ping _ => none

end Happening

def pushesOf (acts : List Act) : List PushEvent :=
  acts.filterMap fun
    | .tell (.push e) => some e
    | _ => none

namespace Worker

/-- Whether the connection outlasts something that happens. Nobody may be left to take the news. -/
def bears (w : Worker) : Happening → Bool
  | .frame f _ => !f.isGarbled && (w.audience || f.news?.isNone)
  | .ping _ => true

def endedBy (w : Worker) : Happening → Worker
  | .frame f _ => if f.isGarbled then w.lose.1 else w.leave.1
  | .ping _ => w

theorem hear_eq (w : Worker) (text : String) : w.hear text =
    (news? text).elim (w, []) fun e => if w.audience then (w, [.tell (.push e)]) else w.leave := by
  unfold hear news?
  cases PushEvent.parse text with
  | error why => rfl
  | ok e => cases e <;> rfl

/-- A frame that does not close the connection is heard as a text, is garbled and heard as a
failure, or is not heard. -/
theorem heard_cases {f : Frame} (stays : f ≠ .close) :
    (∃ text, f.text? = some text ∧ f.isGarbled = false ∧ f.heard? = some (.text text)) ∨
      (∃ why, f.text? = none ∧ f.isGarbled = true ∧ f.heard? = some (.failed why)) ∨
      f.text? = none ∧ f.isGarbled = false ∧ f.heard? = none := by
  cases f with
  | text s => exact Or.inl ⟨s, rfl, rfl, rfl⟩
  | binary bytes =>
    simp only [Frame.text?, Frame.isGarbled, Frame.heard?]
    cases Text.decodeUtf8 bytes with
    | ok s => exact Or.inl ⟨s, rfl, rfl, rfl⟩
    | error why => exact Or.inr (Or.inl ⟨_, rfl, rfl, rfl⟩)
  | ping | pong => exact Or.inr (Or.inr ⟨rfl, rfl, rfl⟩)
  | close => exact absurd rfl stays

theorem run_frame {w : Worker} {f : Frame} {stays : f ≠ .close} {h : Heard}
    (heard : f.heard? = some h) :
    w.run (Happening.frame f stays).wakes = w.step (.heard h) := by
  simp [Happening.wakes, heard, run]

theorem listening_meets {w : Worker} (listens : w.phase = .listening) (h : Happening) :
    (w.run h.wakes).1 = (if w.bears h then w else w.endedBy h) ∧
      pushesOf (w.run h.wakes).2 = if w.bears h then h.news?.toList else [] := by
  cases h with
  | ping =>
    obtain ⟨phase, state, reconnects, audience⟩ := w
    cases listens
    exact ⟨rfl, rfl⟩
  | frame f stays =>
    rcases heard_cases stays with ⟨text, carried, clear, heard⟩ | ⟨why, bare, garbled, heard⟩ |
      ⟨bare, clear, unheard⟩
    · have stepped : w.step (.heard (.text text)) = w.hear text := by simp [step, listens]
      rw [run_frame heard, stepped, hear_eq]
      have news : f.news? = news? text := by rw [Frame.news?, carried]; rfl
      simp only [bears, endedBy, Happening.news?, clear, news]
      cases news? text with
      | none => simp [pushesOf]
      | some e => cases w.audience <;> simp [pushesOf, leave]
    · have stepped : w.step (.heard (.failed why)) = w.lose := by simp [step, listens]
      rw [run_frame heard, stepped]
      simp [bears, endedBy, garbled, pushesOf, lose, rest, enter]
    · simp [Happening.wakes, unheard, run, bears, clear, Frame.news?, bare, Happening.news?,
        pushesOf]

theorem ended_meets {w : Worker} (ended : w.phase = .resting ∨ w.phase = .leaving)
    (h : Happening) : w.run h.wakes = (w, []) := by
  obtain ⟨phase, state, reconnects, audience⟩ := w
  have deaf (h : Heard) : step ⟨phase, state, reconnects, audience⟩ (.heard h) =
      (⟨phase, state, reconnects, audience⟩, []) := by
    rcases ended with same | same <;> cases same <;> rfl
  cases h with
  | ping => rcases ended with same | same <;> cases same <;> rfl
  | frame f stays =>
    cases heard : f.heard? with
    | none => simp [Happening.wakes, heard, run]
    | some h => rw [run_frame heard, deaf]

theorem ended_run {w : Worker} (ended : w.phase = .resting ∨ w.phase = .leaving)
    (hs : List Happening) : w.run (hs.flatMap Happening.wakes) = (w, []) := by
  induction hs with
  | nil => rfl
  | cons h rest ih => rw [List.flatMap_cons, run_append, ended_meets ended h, ih, List.append_nil]

theorem endedBy_phase {w : Worker} {h : Happening} (unborne : w.bears h = false) :
    (w.endedBy h).phase = .resting ∨ (w.endedBy h).phase = .leaving := by
  cases h with
  | ping => cases unborne
  | frame f stays =>
    simp only [endedBy]
    split
    · exact Or.inl rfl
    · exact Or.inr rfl

theorem pushesOf_append (before after : List Act) :
    pushesOf (before ++ after) = pushesOf before ++ pushesOf after := List.filterMap_append

theorem listening_run {w : Worker} (listens : w.phase = .listening) (hs : List Happening) :
    (w.run (hs.flatMap Happening.wakes)).1 =
        ((hs.find? fun h => !w.bears h).map w.endedBy).getD w ∧
      pushesOf (w.run (hs.flatMap Happening.wakes)).2 =
        (hs.takeWhile w.bears).filterMap Happening.news? := by
  induction hs with
  | nil => exact ⟨rfl, rfl⟩
  | cons h rest ih =>
    obtain ⟨after, passed⟩ := listening_meets listens h
    rw [List.flatMap_cons, run_append, pushesOf_append]
    cases borne : w.bears h with
    | true =>
      rw [borne, if_pos rfl] at after passed
      rw [after, passed, ih.1, ih.2, List.find?_cons_of_neg (by simp [borne]),
        List.takeWhile_cons_of_pos borne]
      refine ⟨rfl, ?_⟩
      cases news : h.news? with
      | none => rw [List.filterMap_cons_none news]; rfl
      | some e => rw [List.filterMap_cons_some news]; rfl
    | false =>
      rw [borne, if_neg Bool.false_ne_true] at after passed
      rw [after, passed, ended_run (endedBy_phase borne) rest,
        List.find?_cons_of_pos (by simp [borne]), List.takeWhile_cons_of_neg (by simp [borne])]
      exact ⟨rfl, rfl⟩

/-- On every connection of a worker: it listens on exactly as long as each binary frame is a text
and, once nobody takes its events, no frame brings news. Till then it stays connected as it was,
and what it passes on is the news among the frames, in their order and each once. A frame that is
no text makes it lose the connection. -/
theorem listening_passes_news_until_garbled {w : Worker} (reached : Reachable w)
    (listens : w.phase = .listening) (hs : List Happening) :
    let later := w.run (hs.flatMap Happening.wakes)
    w.state = .connected ∧
      (later.1.phase = .listening ↔ ∀ h ∈ hs, w.bears h = true) ∧
      later.1 = ((hs.find? fun h => !w.bears h).map w.endedBy).getD w ∧
      pushesOf later.2 = (hs.takeWhile w.bears).filterMap Happening.news? := by
  intro later
  obtain ⟨ended, passed⟩ := listening_run listens hs
  refine ⟨?_, ?_, ended, passed⟩
  · rw [reached.coherent, listens]
    rfl
  · rw [ended]
    cases found : hs.find? fun h => !w.bears h with
    | none =>
      have all := List.find?_eq_none.mp found
      simpa [listens] using all
    | some h =>
      have unborne : w.bears h = false := by simpa using List.find?_some found
      have member : h ∈ hs := List.mem_of_find?_eq_some found
      constructor
      · intro still
        rcases endedBy_phase unborne with resting | leaving
        · cases resting.symm.trans still
        · cases leaving.symm.trans still
      · intro all
        rw [all h member] at unborne
        cases unborne

def subscribed : Worker := (start.1.run [.opened, .sent 0]).1

/-- Texts that are no messages, or messages of the wrong shape, do no harm between others. -/
theorem malformed_texts_passed_over :
    let hs : List Happening := [
      .frame (.text "this is not json") (by simp),
      .frame (.binary (Text.utf8 "\x7b\"type\":\"graph_updated\"\x7d")) (by simp),
      .ping 1000,
      .frame (.text "\x7b\"type\":\"node_added\",\"data\":\x7b\"id\":42\x7d\x7d") (by simp),
      .frame (.text "\x7b\"type\":\"node_removed\",\"data\":\x7b\"id\":\"a\"\x7d\x7d") (by simp)]
    let later := subscribed.run (hs.flatMap Happening.wakes)
    subscribed.phase = .listening ∧ later.1.phase = .listening ∧ (pushesOf later.2).length = 2 := by
  intro hs later
  have reached : Reachable subscribed := Reachable.start.run [.opened, .sent 0]
  have borne : hs.all subscribed.bears = true := by decide +kernel
  obtain ⟨_, listens, _, passed⟩ := listening_passes_news_until_garbled reached rfl hs
  refine ⟨rfl, listens.mpr (List.all_eq_true.mp borne), ?_⟩
  rw [passed]
  decide +kernel

/-- A byte that is no text ends the connection, and the news behind it are lost. -/
theorem garbled_frame_ends_connection :
    let hs : List Happening := [
      .frame (.binary [0xff]) (by simp),
      .frame (.text "\x7b\"type\":\"graph_updated\"\x7d") (by simp)]
    let later := subscribed.run (hs.flatMap Happening.wakes)
    subscribed.state = .connected ∧ later.1.state = .disconnected ∧ pushesOf later.2 = [] ∧
      (hs.filterMap Happening.news?).length = 1 := by
  intro hs later
  refine ⟨rfl, by decide +kernel, ?_, by decide +kernel⟩
  exact List.eq_nil_of_length_eq_zero (by decide +kernel)

end Worker

end CodeAtlas.Push
