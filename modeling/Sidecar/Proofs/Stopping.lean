/-
# When a run stops

A run that stops as soon as every file has got its diagnostics looks whether
it may stop only between two events, and what it waits for shrinks by the
documents that the events are about: a file that was opened twice is waited
for once, and events about other documents change nothing but what is shown.

So it takes the shortest beginning of the events that has something about
every file (`Shortest`), and no event behind it. What it shows is what these
events bring, in order, and it succeeds if none of that is an error. Where the
channel ends earlier, it takes the events up to that end, and fails.

Key definitions: `Complete`, `Shortest`, `entriesOf`.
Key theorems: `Tally.shown_takeAll`, `RunWorld.follow_hands`, `RunWorld.once_stops_exactly`.
-/
import Mathlib.Order.Nat
import Sidecar.Proofs.Positions
import Sidecar.Proofs.Verdict

namespace Sidecar

variable {e : ServerEvent} {es p q : List ServerEvent} {opened : List String} {uri : String}
  {d : Diagnostic} {items : List Diagnostic}

/-- What is shown for a diagnostic: the document, the place counted from one, and the message. -/
def entryOf (uri : String) (d : Diagnostic) : String :=
  Tally.nameOf uri ++ ":" ++
    s!"{d.line.toNat + 1}:{d.col.toNat + 1}: {d.severity.label}: [{d.source}] {d.message}"

/-- What is shown for an event, an entry for each diagnostic. -/
def entriesOf : ServerEvent → List String
  | .diagnostics uri items => items.map (entryOf uri)
  | .closed _ => []

/-- All places are in front of the last line and the last column. -/
def Placed (es : List ServerEvent) : Prop :=
  ∀ uri items, .diagnostics uri items ∈ es → ∀ d ∈ items,
    d.line.toNat < 4294967295 ∧ d.col.toNat < 4294967295

theorem Placed.of_prefix (h : Placed es) (hp : p <+: es) : Placed p :=
  fun uri items hmem => h uri items (hp.subset hmem)

theorem Placed.of_cons (h : Placed (e :: es)) : Placed es :=
  fun uri items hmem => h uri items (List.mem_cons_of_mem e hmem)

theorem display?_of_lt (hline : d.line.toNat < 4294967295) (hcol : d.col.toNat < 4294967295) :
    d.display? =
      some (Diagnostic.textAt d.line.toNat d.col.toNat d.severity d.source d.message) := by
  have hfits : d.line.toNat + 1 < 2 ^ 32 ∧ d.col.toNat + 1 < 2 ^ 32 := by omega
  rw [d.display?_eq, if_pos hfits]

namespace Tally

variable {t : Tally}

theorem linesOf_eq
    (h : ∀ d ∈ items, d.line.toNat < 4294967295 ∧ d.col.toNat < 4294967295) :
    linesOf uri items = items.map (entryOf uri) := by
  induction items with
  | nil => rfl
  | cons d items ih =>
    obtain ⟨hline, hcol⟩ := h d List.mem_cons_self
    rw [linesOf, display?_of_lt hline hcol, List.map_cons,
      ← ih fun d hd => h d (List.mem_cons_of_mem _ hd)]
    rfl

theorem any_isNone_eq_false
    (h : ∀ d ∈ items, d.line.toNat < 4294967295 ∧ d.col.toNat < 4294967295) :
    (items.any fun d => d.display?.isNone) = false := by
  refine List.any_eq_false.2 fun d hd => ?_
  obtain ⟨hline, hcol⟩ := h d hd
  simp [display?_of_lt hline hcol]

/-- A run goes on with an event that can be shown and does not tell of the end of the channel. -/
theorem goes_on_take (h : Placed (e :: es)) (htold : ¬ TellsEnd (e :: es)) :
    (t.take e).2 = false := by
  cases e with
  | closed reason => exact absurd (tellsEnd_cons.2 (.inl ⟨reason, rfl⟩)) htold
  | diagnostics uri items => exact any_isNone_eq_false (h uri items List.mem_cons_self)

theorem broken_takeAll (h : Placed es) (ht : t.broken = false) :
    (t.takeAll es).broken = false := by
  induction es generalizing t with
  | nil => exact ht
  | cons e es ih =>
    refine ih h.of_cons ?_
    cases e with
    | closed reason => exact ht
    | diagnostics uri items => exact any_isNone_eq_false (h uri items List.mem_cons_self)

/-- The entries of a run are those of its events, in order. -/
theorem shown_takeAll (h : Placed es) :
    (t.takeAll es).shown = t.shown ++ es.flatMap entriesOf := by
  induction es generalizing t with
  | nil => simp [takeAll]
  | cons e es ih =>
    have hstep : (t.take e).1.shown = t.shown ++ entriesOf e := by
      cases e with
      | closed reason => simp [take, entriesOf]
      | diagnostics uri items =>
        rw [take, entriesOf, ← linesOf_eq (h uri items List.mem_cons_self)]
    show ((t.take e).1.takeAll es).shown = _
    rw [ih h.of_cons, hstep, List.flatMap_cons, List.append_assoc]

end Tally

/-! ### What is waited for -/

/-- Every file that was opened has got its diagnostics. -/
def Complete (opened : List String) (es : List ServerEvent) : Prop :=
  ∀ uri ∈ opened, Answered es uri

/-- The shortest beginning of the events that is complete. -/
structure Shortest (opened : List String) (es p : List ServerEvent) : Prop where
  isPrefix : p <+: es
  complete : Complete opened p
  minimal : ∀ q, q <+: es → Complete opened q → p.length ≤ q.length

theorem Complete.mono (h : Complete opened p) (hpq : p <+: q) : Complete opened q := by
  intro uri huri
  obtain ⟨items, hmem⟩ := h uri huri
  exact ⟨items, hpq.subset hmem⟩

theorem exists_shortest (hq : q <+: es) (hcomplete : Complete opened q) :
    ∃ p, Shortest opened es p := by
  classical
  have htake : q = es.take q.length := List.prefix_iff_eq_take.1 hq
  have hex : ∃ n, Complete opened (es.take n) := ⟨q.length, htake ▸ hcomplete⟩
  refine ⟨es.take (Nat.find hex), List.take_prefix _ _, Nat.find_spec hex, ?_⟩
  intro r hr hrcomplete
  have hr' : r = es.take r.length := List.prefix_iff_eq_take.1 hr
  have hle : Nat.find hex ≤ r.length := Nat.find_min' hex (hr' ▸ hrcomplete)
  have hlen : (es.take (Nat.find hex)).length ≤ Nat.find hex := List.length_take_le _ _
  omega

/-- No event is waited for if no file was opened. -/
theorem Shortest.eq_nil (h : Shortest [] es p) : p = [] := by
  have hnil : Complete [] ([] : List ServerEvent) := fun uri huri => by cases huri
  have hle : p.length ≤ 0 := h.minimal [] List.nil_prefix hnil
  exact List.eq_nil_of_length_eq_zero (Nat.le_zero.1 hle)

/-- A run is done exactly when its events are complete. -/
theorem Tally.isDone_takeAll :
    (takeAll { pending := opened } es).isDone true = true ↔ Complete opened es := by
  have hmem : ∀ uri, uri ∈ (takeAll { pending := opened } es).pending ↔
      uri ∈ opened ∧ ¬ Answered es uri := fun uri => mem_pending_takeAll
  rw [isDone, Bool.true_and, List.isEmpty_iff, List.eq_nil_iff_forall_not_mem]
  constructor
  · intro hempty uri huri
    by_contra hun
    exact hempty uri ((hmem uri).2 ⟨huri, hun⟩)
  · intro hcomplete uri huri
    obtain ⟨hopened, hun⟩ := (hmem uri).1 huri
    exact hun (hcomplete uri hopened)

/-! ### The loop -/

namespace RunWorld

variable {σ : Type} {w : RunWorld σ} {selector : Selector} {files : List String} {once : Bool}
  {fuel : Nat} {s s₀ s₁ s₂ s' : σ} {t : Tally} {reason : ChannelEnd}

theorem Hands.split (h : Hands w s (p ++ q) s') : ∃ s₁, Hands w s p s₁ ∧ Hands w s₁ q s' := by
  induction p generalizing s with
  | nil => exact ⟨s, .nil s, h⟩
  | cons e p ih =>
    cases h with
    | cons first rest =>
      obtain ⟨s₁, hp, hq⟩ := ih rest
      exact ⟨s₁, .cons first hp, hq⟩

theorem follow_of_isDone (h : t.isDone once = true) (hfuel : 0 < fuel) :
    w.follow once t fuel s = (.finished t, s) := by
  obtain ⟨fuel, rfl⟩ : ∃ n, fuel = n + 1 := ⟨fuel - 1, by omega⟩
  rw [follow, if_pos h]

theorem follow_of_closed (h : t.isDone once = false) (hwhole : t.broken = false)
    (hnext : w.next s = (.event (.closed reason), s'))
    (hfuel : 0 < fuel) : w.follow once t fuel s = (.finished (t.take (.closed reason)).1, s') := by
  obtain ⟨fuel, rfl⟩ : ∃ n, fuel = n + 1 := ⟨fuel - 1, by omega⟩
  rw [follow, if_neg (by simp [h]), hnext]
  simp [Tally.take, hwhole]

theorem follow_of_event (h : t.isDone once = false) (hnext : w.next s = (.event e, s'))
    (hgoes : (t.take e).2 = false) :
    w.follow once t (fuel + 1) s = w.follow once (t.take e).1 fuel s' := by
  have htake : t.take e = ((t.take e).1, false) := Prod.ext rfl hgoes
  rw [follow, if_neg (by simp [h]), hnext]
  dsimp only
  rw [htake]

/-- **The loop takes events as long as it is not done, is not told of the end of the channel and
can show what they bring.** -/
theorem follow_hands (hands : Hands w s p s') (hplaced : Placed p) (htold : ¬ TellsEnd p)
    (hopen : ∀ q, q <+: p → q ≠ p → (t.takeAll q).isDone once = false) (hfuel : p.length ≤ fuel) :
    w.follow once t fuel s = w.follow once (t.takeAll p) (fuel - p.length) s' := by
  induction hands generalizing t fuel with
  | nil s => rfl
  | @cons e p s s₁ s' first rest ih =>
    obtain ⟨fuel, rfl⟩ : ∃ n, fuel = n + 1 := ⟨fuel - 1, by rw [List.length_cons] at hfuel; omega⟩
    have hfirst : t.isDone once = false := hopen [] List.nil_prefix (by simp)
    have hrest : ¬ TellsEnd p := fun h => htold (tellsEnd_cons.2 (.inr h))
    have hlater : ∀ q, q <+: p → q ≠ p → ((t.take e).1.takeAll q).isDone once = false := by
      intro q hq hne
      have hcons : e :: q <+: e :: p := List.cons_prefix_cons.2 ⟨rfl, hq⟩
      exact hopen _ hcons (by simpa using hne)
    have hlen : p.length ≤ fuel := by
      rw [List.length_cons] at hfuel
      omega
    rw [follow_of_event hfirst first (Tally.goes_on_take hplaced htold),
      ih hplaced.of_cons hrest hlater hlen, List.length_cons, Nat.add_sub_add_right]
    rfl

/-- What the loop makes of the events is what the run makes of them. -/
theorem run_of_follow (hbegins : Begins w s s₀)
    (hopened : w.handInAll selector s₀ [] files = (.ok opened, s₁))
    (h : w.follow once { pending := opened } fuel s₁ = (.finished t, s')) :
    w.run selector files once fuel s = (.finished t, w.shutdown s') := by
  obtain ⟨a, b, hstart, hintroduce, hconfigure⟩ := hbegins
  rw [run, hstart]
  dsimp only
  rw [hintroduce]
  dsimp only
  rw [hconfigure]
  dsimp only
  rw [hopened]
  dsimp only
  rw [h]
  rfl

/-- No beginning that is shorter is complete. -/
theorem isDone_eq_false_of_shorter (h : ∀ q, q <+: p → q ≠ p → ¬ Complete opened q)
    (hq : q <+: p) (hne : q ≠ p) :
    (Tally.takeAll { pending := opened } q).isDone true = false := by
  rw [← Bool.not_eq_true, Tally.isDone_takeAll]
  exact h q hq hne

/-- The events suffice: the loop stops with the shortest beginning that is complete. -/
theorem follow_shortest (hshort : Shortest opened es p) (hands : Hands w s₁ p s')
    (hplaced : Placed p) (htold : ¬ TellsEnd p) (hfuel : p.length < fuel) :
    w.follow true { pending := opened } fuel s₁ =
      (.finished (Tally.takeAll { pending := opened } p), s') := by
  have hshorter : ∀ q, q <+: p → q ≠ p → ¬ Complete opened q := by
    intro q hq hne hcomplete
    have hle := hshort.minimal q (hq.trans hshort.isPrefix) hcomplete
    exact hne (hq.eq_of_length_le hle)
  rw [follow_hands hands hplaced htold (fun q => isDone_eq_false_of_shorter hshorter)
    (Nat.le_of_lt hfuel)]
  exact follow_of_isDone (Tally.isDone_takeAll.2 hshort.complete) (by omega)

/-- The channel ends too early: the loop stops there. -/
theorem follow_cut (hands : Hands w s₁ (p ++ [.closed reason]) s') (hplaced : Placed p)
    (htold : ¬ TellsEnd p) (hincomplete : ¬ Complete opened p) (hfuel : p.length < fuel) :
    w.follow true { pending := opened } fuel s₁ =
      (.finished (Tally.takeAll { pending := opened } (p ++ [.closed reason])), s') := by
  have hshorter : ∀ q, q <+: p → q ≠ p → ¬ Complete opened q :=
    fun q hq _ hcomplete => hincomplete (hcomplete.mono hq)
  obtain ⟨s₂, hbefore, hlast⟩ := hands.split
  cases hlast with
  | cons first rest =>
    cases rest
    have hopen : (Tally.takeAll { pending := opened } p).isDone true = false := by
      rw [← Bool.not_eq_true, Tally.isDone_takeAll]
      exact hincomplete
    rw [follow_hands hbefore hplaced htold (fun q => isDone_eq_false_of_shorter hshorter)
      (Nat.le_of_lt hfuel),
      follow_of_closed hopen (Tally.broken_takeAll hplaced rfl) first (by omega)]
    simp [Tally.takeAll]

/-- **A run stops with the first event that leaves nothing to wait for**, shows what the events up
to it bring, and succeeds if there is no error among that. If it is told of the end of the channel
before, it stops there and fails. -/
theorem once_stops_exactly (hbegins : Begins w s s₀)
    (hopened : w.handInAll selector s₀ [] files = (.ok opened, s₁)) (hands : Hands w s₁ es s₂)
    (hplaced : Placed es) (hfuel : es.length < fuel) :
    ((∃ q, q <+: es ∧ ¬ TellsEnd q ∧ Complete opened q) →
      ∃ p s' t, Shortest opened es p ∧ (opened = [] → p = []) ∧ Hands w s₁ p s' ∧
        w.run selector files true fuel s = (.finished t, w.shutdown s') ∧
        t.shown = p.flatMap entriesOf ∧ (t.success = true ↔ Clean p)) ∧
    ∀ p reason rest, es = p ++ .closed reason :: rest → ¬ TellsEnd p → ¬ Complete opened p →
      ∃ s' t, Hands w s₁ (p ++ [.closed reason]) s' ∧
        w.run selector files true fuel s = (.finished t, w.shutdown s') ∧
        t.shown = p.flatMap entriesOf ∧ t.success = false := by
  constructor
  · rintro ⟨q, hq, hqtold, hcomplete⟩
    obtain ⟨p, hshort⟩ := exists_shortest hq hcomplete
    have hle : p.length ≤ q.length := hshort.minimal q hq hcomplete
    have hpq : p <+: q := List.prefix_of_prefix_length_le hshort.isPrefix hq hle
    have htold : ¬ TellsEnd p := fun ⟨reason, hmem⟩ => hqtold ⟨reason, hpq.subset hmem⟩
    have hlen : p.length < fuel := Nat.lt_of_le_of_lt hshort.isPrefix.length_le hfuel
    obtain ⟨rest, hrest⟩ := hshort.isPrefix
    rw [← hrest] at hands
    obtain ⟨s', hhands, -⟩ := hands.split
    have hshown : Placed p := hplaced.of_prefix hshort.isPrefix
    have hfollow := follow_shortest hshort hhands hshown htold hlen
    have hrun := run_of_follow hbegins hopened hfollow
    refine ⟨p, s', _, hshort, ?_, hhands, hrun, ?_, ?_⟩
    · rintro rfl
      exact hshort.eq_nil
    · rw [Tally.shown_takeAll hshown, List.nil_append]
    · rw [Tally.success_takeAll]
      exact and_iff_left htold
  · rintro p reason rest rfl htold hincomplete
    have hsplit : p ++ .closed reason :: rest = (p ++ [.closed reason]) ++ rest := by simp
    have hpre : p ++ [.closed reason] <+: p ++ .closed reason :: rest := ⟨rest, hsplit.symm⟩
    have hlen : p.length < fuel := by
      rw [List.length_append] at hfuel
      omega
    rw [hsplit] at hands
    obtain ⟨s', hhands, -⟩ := hands.split
    have hshown : Placed (p ++ [.closed reason]) := hplaced.of_prefix hpre
    have hbefore : Placed p := hshown.of_prefix (List.prefix_append _ _)
    have hfollow := follow_cut hhands hbefore htold hincomplete hlen
    have hrun := run_of_follow hbegins hopened hfollow
    refine ⟨s', _, hhands, hrun, ?_, ?_⟩
    · rw [Tally.shown_takeAll hshown, List.flatMap_append]
      simp [entriesOf]
    · have htells : TellsEnd (p ++ [.closed reason]) := ⟨reason, by simp⟩
      rw [← Bool.not_eq_true, Tally.success_takeAll]
      exact fun h => h.2 htells

/-- All goes well, and these events come. -/
def ofEvents : RunWorld (List ServerEvent) where
  start es := (none, es)
  shutdown es := es
  discard es := es
  introduce es := (.ok (), es)
  configure es := (.ok (), es)
  canonical _ path := .ok path
  read _ _ := .ok ""
  opens es _ _ := (.ok (), es)
  save es _ := (.ok (), es)
  next es :=
    match es with
    | [] => (.ended, [])
    | e :: es => (.event e, es)

theorem hands_ofEvents (p q : List ServerEvent) : Hands ofEvents (p ++ q) p q := by
  induction p with
  | nil => exact .nil q
  | cons e p ih => exact .cons rfl ih

def remark (severity : Severity) (line : UInt32) : Diagnostic := ⟨severity, "m", line, 0, "yara"⟩

/-- One file is named twice; there is an error in a document that nobody has opened, and the server
goes on when all is said. -/
def chatty : List ServerEvent :=
  [.diagnostics "file:///b.yara" [remark .warning 4294967294],
    .diagnostics "file:///c.yara" [remark .error 0, remark .hint 1],
    .diagnostics "file:///a.yara" [], .diagnostics "file:///a.yara" [remark .error 2],
    .closed .closed]

theorem placed_chatty : Placed chatty := by
  intro uri items hmem
  simp only [chatty, List.mem_cons, List.not_mem_nil, or_false, ServerEvent.diagnostics.injEq,
    reduceCtorEq] at hmem
  rcases hmem with ⟨-, rfl⟩ | ⟨-, rfl⟩ | ⟨-, rfl⟩ | ⟨-, rfl⟩ <;> simp [remark]

theorem once_stops_exactly_chatty :
    (∃ p t, Shortest ["file:///a.yara", "file:///b.yara", "file:///a.yara"] chatty p ∧
      ofEvents.run {} ["/a.yara", "/b.yara", "/a.yara"] true 6 chatty =
        (.finished t, chatty.drop 3) ∧
      t.shown = p.flatMap entriesOf ∧ t.shown.length = 3 ∧ t.success = false ∧ ¬ Clean p) ∧
    ∃ t, ofEvents.run {} ["/a.yara", "/d.yara"] true 6 chatty = (.finished t, []) ∧
      t.shown = (chatty.take 4).flatMap entriesOf ∧ t.shown.length = 4 ∧ t.success = false := by
  have hbegins : Begins ofEvents chatty chatty := ⟨chatty, chatty, rfl, rfl, rfl⟩
  have hands : Hands ofEvents chatty chatty [] := hands_ofEvents chatty []
  have hfuel : chatty.length < 6 := by decide
  constructor
  · have hopened : ofEvents.handInAll {} chatty [] ["/a.yara", "/b.yara", "/a.yara"] =
        (.ok ["file:///a.yara", "file:///b.yara", "file:///a.yara"], chatty) := rfl
    have hcomplete : Complete ["file:///a.yara", "file:///b.yara", "file:///a.yara"]
        (chatty.take 3) := by
      intro uri huri
      simp only [List.mem_cons, List.not_mem_nil, or_false] at huri
      rcases huri with rfl | rfl | rfl
      · exact ⟨[], by simp [chatty]⟩
      · exact ⟨[remark .warning 4294967294], by simp [chatty]⟩
      · exact ⟨[], by simp [chatty]⟩
    have htold : ¬ TellsEnd (chatty.take 3) := by simp [TellsEnd, chatty]
    obtain ⟨p, s', t, hshort, -, -, hrun, hshown, hsuccess⟩ :=
      (once_stops_exactly hbegins hopened hands placed_chatty hfuel).1
        ⟨chatty.take 3, List.take_prefix _ _, htold, hcomplete⟩
    have hresult : ofEvents.run {} ["/a.yara", "/b.yara", "/a.yara"] true 6 chatty =
        (.finished _, chatty.drop 3) := rfl
    rw [hresult] at hrun
    cases hrun
    exact ⟨p, _, hshort, hresult, hshown, rfl, rfl, fun hclean => by cases hsuccess.2 hclean⟩
  · have hopened : ofEvents.handInAll {} chatty [] ["/a.yara", "/d.yara"] =
        (.ok ["file:///a.yara", "file:///d.yara"], chatty) := rfl
    have htold : ¬ TellsEnd (chatty.take 4) := by simp [TellsEnd, chatty]
    have hincomplete : ¬ Complete ["file:///a.yara", "file:///d.yara"] (chatty.take 4) := by
      intro hcomplete
      obtain ⟨items, hmem⟩ := hcomplete "file:///d.yara" (by simp)
      simp [chatty] at hmem
    obtain ⟨s', t, -, hrun, hshown, hsuccess⟩ :=
      (once_stops_exactly hbegins hopened hands placed_chatty hfuel).2 (chatty.take 4) .closed []
        rfl htold hincomplete
    have hresult : ofEvents.run {} ["/a.yara", "/d.yara"] true 6 chatty = (.finished _, []) := rfl
    rw [hresult] at hrun
    cases hrun
    exact ⟨_, hresult, hshown, rfl, hsuccess⟩

end RunWorld

end Sidecar
