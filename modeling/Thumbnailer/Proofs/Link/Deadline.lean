/-
Reading a message in time.

How a reading ends, and when, is told by which bytes of the connection are there at which time.  In
what pieces they come does not matter.

* **`Verdict`** — what a reading with a deadline comes to;
* **`verdict_receive`** — each reading comes to it; **`Verdict.eq`**: it comes to one thing only;
* **`Verdict.congr`** — connections that bring the same until the deadline are read alike;
* **`receive_in_time`** — what this says of header, payload, the end of the connection and the
  deadline.
-/
import Thumbnailer.Proofs.Link.Schedule

namespace Thumbnailer.Link.Line

variable {α : Type} [Wire.Side α] {limit timeout n t u : Nat} {l : Line} {ready : List UInt8}
  {a : Arrival} {rest : List Arrival}

/-- What a reading comes to, and when: the first message, if enough bytes are there before the
deadline, and otherwise a failure. -/
inductive Verdict (limit timeout : Nat) (l : Line) : Except Error α → Nat → Prop
  | found {result : Except Error α} {t : Nat}
      (hfirst : firstMessage limit (l.before timeout) = some result)
      (hat : l.Reaches (needed limit (l.before timeout)) t) : Verdict limit timeout l result t
  | closed {cause : IoError} {t : Nat}
      (hmissing : (l.before timeout).length < needed limit (l.before timeout))
      (hend : l.ending timeout = some (t, cause)) : Verdict limit timeout l (.error (.io cause)) t
  | late (hmissing : (l.before timeout).length < needed limit (l.before timeout))
      (hopen : l.ending timeout = none) :
      Verdict limit timeout l
        (.error (.late (.reading (stageOf limit (l.before timeout)).size))) timeout

variable {result result' : Except Error α}

theorem Verdict.cons (hmissing : ready.length < needed limit ready) (hwait : a.wait < timeout)
    (h : Verdict limit (timeout - a.wait) ⟨ready ++ a.bytes, a.close, rest⟩ result t) :
    Verdict limit timeout ⟨ready, none, a :: rest⟩ result (a.wait + t) := by
  have hbefore : before ⟨ready ++ a.bytes, a.close, rest⟩ (timeout - a.wait)
      = before ⟨ready, none, a :: rest⟩ timeout := by
    rw [before_cons, if_pos hwait]
  have hending := ending_cons ready a rest timeout
  rw [if_pos hwait] at hending
  cases h with
  | found hfirst hat =>
    rw [hbefore] at hfirst hat
    -- the message is not there before the next arrival
    have hready : ready.length < needed limit (before ⟨ready, none, a :: rest⟩ timeout) := by
      rw [before]
      exact lt_needed_append _ hmissing
    exact .found hfirst (hat.cons hready)
  | closed hshort hend =>
    rw [hbefore] at hshort
    rw [hend, Option.map_some] at hending
    exact .closed hshort hending
  | late hshort hopen =>
    rw [hbefore] at hshort ⊢
    rw [hopen, Option.map_none] at hending
    rw [Nat.add_sub_cancel' hwait.le]
    exact .late hshort hending

theorem verdict_receive (limit timeout : Nat) (l : Line) :
    Verdict limit timeout l (l.receive limit timeout : Received α).result
      (l.receive limit timeout : Received α).elapsed := by
  refine receive_induction (P := fun timeout l r => Verdict limit timeout l r.result r.elapsed)
    ?found ?closed ?late ?next timeout l
  case found =>
    intro timeout ready closed coming result hfirst
    have hle : needed limit ready ≤ ready.length := needed_le_of_firstMessage hfirst
    have hlong : ¬ ready.length < Wire.Header.size :=
      Nat.not_lt.mpr ((size_le_needed limit ready).trans hle)
    refine .found (firstMessage_append _ hfirst) ⟨?_, fun _ _ => Nat.zero_le _⟩
    show needed limit (before ⟨ready, closed, coming⟩ timeout) ≤ _
    rw [before, needed_append _ hlong, before, List.length_append]
    exact hle.trans (Nat.le_add_right _ _)
  case closed =>
    intro timeout ready cause coming hmissing
    exact .closed (by rw [before_closed]; exact hmissing) rfl
  case late =>
    intro timeout ready coming left hmissing hnext
    obtain ⟨hbefore, hopen⟩ := before_of_late hnext
    have hlate : Verdict limit timeout ⟨ready, none, coming⟩ (_ : Except Error α) timeout :=
      .late (by rw [hbefore]; exact hmissing) hopen
    rw [hbefore] at hlate
    exact hlate
  case next =>
    intro timeout ready a rest r hmissing hwait h
    exact h.cons hmissing hwait

theorem Verdict.le (h : Verdict limit timeout l result t) : t ≤ timeout := by
  cases h with
  | found hfirst hat =>
    exact (hat.le (needed_le_of_firstMessage hfirst)).trans (Nat.sub_le _ _)
  | closed hmissing hend => exact ending_le hend
  | late hmissing hopen => exact Nat.le_refl _

/-- A message that is there before the deadline is what the reading comes to. -/
theorem Verdict.of_firstMessage (h : Verdict limit timeout l result t)
    (hfirst : firstMessage limit (l.before timeout) = some result') :
    result = result' ∧ l.Reaches (needed limit (l.before timeout)) t := by
  have hle := needed_le_of_firstMessage hfirst
  cases h with
  | found hfound hat =>
    rw [hfirst] at hfound
    exact ⟨(Option.some.inj hfound).symm, hat⟩
  | closed hmissing _ => omega
  | late hmissing _ => omega

/-- A reading comes to one thing only. -/
theorem Verdict.eq (h : Verdict limit timeout l result t) (h' : Verdict limit timeout l result' u) :
    result = result' ∧ t = u := by
  cases h with
  | found hfirst hat =>
    obtain ⟨hresult, hat'⟩ := h'.of_firstMessage hfirst
    exact ⟨hresult.symm, hat.unique hat'⟩
  | closed hmissing hend =>
    cases h' with
    | found hfirst' _ =>
      have hle := needed_le_of_firstMessage hfirst'
      omega
    | closed _ hend' =>
      rw [hend] at hend'
      obtain ⟨rfl, rfl⟩ := Prod.mk.inj (Option.some.inj hend')
      exact ⟨rfl, rfl⟩
    | late _ hopen =>
      rw [hend] at hopen
      cases hopen
  | late hmissing hopen =>
    cases h' with
    | found hfirst' _ =>
      have hle := needed_le_of_firstMessage hfirst'
      omega
    | closed _ hend =>
      rw [hopen] at hend
      cases hend
    | late _ _ => exact ⟨rfl, rfl⟩

/-- Of two connections that bring the same until the deadline, a number of bytes is there at the same
moment. -/
theorem Reaches.congr {l' : Line} (hbefore : ∀ u ≤ timeout, l'.before u = l.before u)
    (hn : n ≤ (l.before timeout).length) (h : l.Reaches n t) : l'.Reaches n t := by
  have ht : t ≤ timeout - 1 := h.le hn
  cases timeout with
  | zero =>
    -- what is there at the start is there in both
    obtain rfl : t = 0 := Nat.le_zero.mp ht
    refine ⟨?_, fun _ _ => Nat.zero_le _⟩
    rw [← hbefore 0 (Nat.le_refl 0)] at hn
    exact hn.trans (length_before_le (Nat.zero_le 1))
  | succ time =>
    constructor
    · show n ≤ (l'.before (t + 1)).length
      rw [hbefore _ (by omega)]
      exact h.1
    · intro u hu
      by_contra hut
      change n ≤ (l'.before (u + 1)).length at hu
      rw [hbefore _ (by omega)] at hu
      exact hut (h.2 hu)

theorem Verdict.congr {l' : Line}
    (hsame : ∀ u ≤ timeout, l'.before u = l.before u ∧ l'.ending u = l.ending u)
    (h : Verdict limit timeout l result t) : Verdict limit timeout l' result t := by
  obtain ⟨hbefore, hending⟩ := hsame timeout (Nat.le_refl _)
  cases h with
  | found hfirst hat =>
    have hle := needed_le_of_firstMessage hfirst
    rw [← hbefore] at hfirst
    refine .found hfirst ?_
    rw [hbefore]
    exact hat.congr (fun u hu => (hsame u hu).1) hle
  | closed hmissing hend => exact .closed (by rw [hbefore]; exact hmissing) (by rw [hending, hend])
  | late hmissing hopen =>
    rw [← hbefore] at hmissing ⊢
    exact .late hmissing (by rw [hending, hopen])

/-- What is to be said of a reading that has a deadline. -/
structure InTime (limit timeout : Nat) (l : Line) (r : Received α) : Prop where
  elapsed_le : r.elapsed ≤ timeout
  /-- A header that is rejected ends the reading at once, whatever else is there. -/
  rejected : ∀ cause, Wire.Header.size ≤ (l.before timeout).length →
    Wire.Header.parse limit ((l.before timeout).take Wire.Header.size) = .error cause →
      r.result = .error cause ∧ l.Reaches Wire.Header.size r.elapsed
  /-- A whole frame is decoded as soon as it is there, and nothing behind it counts. -/
  decoded : ∀ h : Wire.Header,
    Wire.Header.parse limit ((l.before timeout).take Wire.Header.size) = .ok h →
    Wire.Header.size + h.payloadLength ≤ (l.before timeout).length →
      r.result = Wire.decode h.kind
          (((l.before timeout).drop Wire.Header.size).take h.payloadLength) ∧
        l.Reaches (Wire.Header.size + h.payloadLength) r.elapsed
  /-- Bytes that are missing when the peer ends its side will not come. -/
  closed : ∀ t cause, (l.before timeout).length < needed limit (l.before timeout) →
    l.ending timeout = some (t, cause) → r.result = .error (.io cause) ∧ r.elapsed = t
  /-- Bytes that are missing at the deadline are late. -/
  late : (l.before timeout).length < needed limit (l.before timeout) → l.ending timeout = none →
    r.result = .error (.late (.reading (stageOf limit (l.before timeout)).size)) ∧
      r.elapsed = timeout
  /-- Nothing else counts: not how the bytes come in pieces, and not what comes later. -/
  same : ∀ l' : Line, (∀ t ≤ timeout, l'.before t = l.before t ∧ l'.ending t = l.ending t) →
    (l'.receive limit timeout : Received α).result = r.result ∧
      (l'.receive limit timeout : Received α).elapsed = r.elapsed

/-- **A reading ends in time, with what the bytes say.**  A reading is over by its deadline, which is
one for the header and the payload.  If a header that is rejected, or a whole frame, is there before
that, the reading ends at the moment at which its last byte is there, with the cause or with what the
payload says.  If not, it fails: at the moment at which the peer ends its side, or else at the
deadline.  The result and the time depend on nothing but the bytes that are there at each moment
until then. -/
theorem receive_in_time (limit timeout : Nat) (l : Line) :
    InTime limit timeout l (l.receive limit timeout : Received α) := by
  have hverdict := verdict_receive (α := α) limit timeout l
  refine ⟨hverdict.le, ?_, ?_, ?_, ?_, ?_⟩
  · intro cause hlong hparse
    have hshort := Nat.not_lt.mpr hlong
    have hfound := hverdict.of_firstMessage (firstMessage_of_error hshort hparse)
    rwa [needed_of_error hshort hparse] at hfound
  · intro h hparse hwhole
    have hfound := hverdict.of_firstMessage (firstMessage_of_ok hparse hwhole)
    rwa [needed_of_ok (not_short_of_parse hparse) hparse] at hfound
  · intro t cause hmissing hend
    exact hverdict.eq (.closed hmissing hend)
  · intro hmissing hopen
    exact hverdict.eq (.late hmissing hopen)
  · intro l' hsame
    exact (verdict_receive limit timeout l').eq (hverdict.congr hsame)

/-- A header of which the last bytes come late, and a payload that stalls: the deadline is the one of
the header, unless the peer ends its side before it. -/
theorem receive_in_time_stalled :
    ((ofArrivals [⟨2, [0, 1, 0, 5, 0, 0], none⟩, ⟨1, [0, 16, 0, 0], none⟩,
        ⟨6, [], some .earlyEnd⟩]).receive 16 5 : Received Wire.Command).result
          = .error (.late (.reading 16)) ∧
      ((ofArrivals [⟨2, [0, 1, 0, 5, 0, 0], none⟩, ⟨1, [0, 16, 0, 0], none⟩,
        ⟨6, [], some .earlyEnd⟩]).receive 16 10 : Received Wire.Command).result
          = .error (.io .earlyEnd) ∧
      ((ofArrivals [⟨2, [0, 1, 0, 5, 0, 0], none⟩, ⟨1, [0, 16, 0, 0], none⟩,
        ⟨6, [], some .earlyEnd⟩]).receive 16 10 : Received Wire.Command).elapsed = 9 :=
  ⟨((receive_in_time 16 5 _).late (by decide) rfl).1,
    (receive_in_time 16 10 _).closed 9 .earlyEnd (by decide) rfl⟩

end Thumbnailer.Link.Line
