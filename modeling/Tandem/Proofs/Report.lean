import Mathlib.Tactic
import Tandem.Proofs.Console
import Tandem.Proofs.Wording

/-!
# Reports to a console with a limit

A reporter is asked for one thing after the other, and goes on whether or not a request fails
(`Console.meetAll`). What it has been asked to write so far decides everything: of all the texts
together the console holds the beginning up to its limit, with no gap and nothing twice, each
request has added the part of its text that lies below the limit, and those fail that were cut, or
that were to flush a console which cannot (`Console.meetAll_limited`).

A text is written in pieces, and a failed piece ends it. That loses nothing, since a console that
has refused a byte is full.
-/

namespace Tandem

/-- What a reporter can be asked for. -/
inductive Request where
  /-- Report an event. -/
  | event (e : Event)
  /-- Pass bytes on to the console, such as those of a difference. -/
  | sink (data : Bytes)
  deriving DecidableEq, Repr

namespace Request

/-- The full text of a request. The start of a run has none. -/
def text : Request → Bytes
  | .event (.runStart _) => []
  | .event (.failed case reference r candidate c) =>
    Wording.failure case.name reference r.code candidate c.code
  | .event (.banner case) => Wording.banner case.name
  | .event (.diffed _ _) => Wording.close
  | .sink data => data

/-- The request is to flush the console: the report of a failure, of a banner or of a comparison. -/
def flushes : Request → Bool
  | .event (.failed ..) | .event (.banner _) | .event (.diffed ..) => true
  | .event (.runStart _) | .sink _ => false

theorem text_event (e : Event) : (event e).text = e.text := by
  cases e with
  | runStart | diffed => rfl
  | failed => exact Event.text_failed.symm
  | banner => exact Event.text_banner.symm

theorem flushes_event (e : Event) : (event e).flushes = e.flushes := by
  cases e <;> rfl

end Request

/-- What came of a request: the bytes that the console holds since then, and whether it failed. -/
structure Reply where
  added : Bytes
  result : Except Fault Unit

namespace Console

/-- Meets a request. -/
def meet (r : Request) (c : Console) : Console × Except Fault Unit :=
  match r with
  | .event e => c.report e
  | .sink data => c.write data

/-- Meets requests in order, the later ones also after a failure. -/
def meetAll : List Request → Console → Console × List Reply
  | [], c => (c, [])
  | r :: rs, c =>
    let (c₁, result) := c.meet r
    let (c₂, replies) := meetAll rs c₁
    (c₂, ⟨c₁.accepted.drop c.accepted.length, result⟩ :: replies)

variable {c : Console} {limit : ℕ} {offered : Bytes}

/-- A console that holds what it was `offered` up to its limit goes on to do so. A write fails
exactly if some of it lies beyond the limit. -/
theorem write_limited (hlimit : c.limit = some limit) (hc : c.accepted = offered.take limit)
    (bs : Bytes) :
    ∃ result, c.write bs = ({ c with accepted := (offered ++ bs).take limit }, result) ∧
      (result = .ok () ↔ bs = [] ∨ (offered ++ bs).length ≤ limit) := by
  have hroom : limit - c.accepted.length = limit - offered.length := by
    rw [hc, List.length_take]
    omega
  rw [List.take_append, ← hc, ← hroom, List.length_append]
  rcases Nat.lt_or_ge (limit - c.accepted.length) bs.length with hlt | hle
  · refine ⟨_, write_of_lt hlimit hlt, iff_of_false (by simp) ?_⟩
    rintro (rfl | hle)
    · simp at hlt
    · omega
  · refine ⟨_, ?_, iff_of_true rfl ?_⟩
    · rw [write_of_le hlimit hle, List.take_of_length_le hle]
    · rw [← List.length_eq_zero_iff]
      omega

/-- The same goes for a request, which fails as well if it is to flush and cannot. -/
theorem meet_limited (hlimit : c.limit = some limit) (hc : c.accepted = offered.take limit)
    (r : Request) :
    ∃ result, c.meet r = ({ c with accepted := (offered ++ r.text).take limit }, result) ∧
      (result = .ok () ↔ (r.text = [] ∨ (offered ++ r.text).length ≤ limit) ∧
        (r.flushes = true → c.flushFails = false)) := by
  obtain ⟨result, hwrite, hok⟩ := write_limited hlimit hc r.text
  cases r with
  | sink data => exact ⟨result, hwrite, by simpa [Request.text, Request.flushes] using hok⟩
  | event e =>
    rw [Request.text_event] at hwrite hok ⊢
    rw [Request.flushes_event, ← hok, meet, report, writeAll_eq, ← Event.text, hwrite]
    rcases result with fault | ⟨⟩
    · exact ⟨_, rfl, by simp⟩
    · refine ⟨_, rfl, ?_⟩
      cases hflushes : e.flushes <;> simp [flush]

/-- **Requests one after the other**, to a console that holds what it was `offered` before up to its
limit. -/
theorem meetAll_of_offered (offered : Bytes) (hlimit : c.limit = some limit)
    (hc : c.accepted = offered.take limit) (requests : List Request) :
    (c.meetAll requests).1.accepted = (offered ++ requests.flatMap Request.text).take limit ∧
      (c.meetAll requests).2.length = requests.length ∧
      ∀ i r, requests[i]? = some r → ∃ reply, (c.meetAll requests).2[i]? = some reply ∧
        reply.added
          = r.text.take (limit - (offered ++ (requests.take i).flatMap Request.text).length) ∧
        (reply.result = .ok () ↔
          (r.text = [] ∨
            (offered ++ (requests.take (i + 1)).flatMap Request.text).length ≤ limit) ∧
          (r.flushes = true → c.flushFails = false)) := by
  induction requests generalizing c offered with
  | nil => exact ⟨by simpa [meetAll] using hc, rfl, by simp⟩
  | cons r rs ih =>
    obtain ⟨result, hmeet, hok⟩ := meet_limited hlimit hc r
    -- the rest is asked of a console that was offered the text of this request as well
    obtain ⟨haccepted, hlength, hreplies⟩ := ih
      (c := { c with accepted := (offered ++ r.text).take limit }) (offered ++ r.text) hlimit rfl
    simp only [meetAll, hmeet, List.flatMap_cons, List.length_cons, hlength, ← List.append_assoc]
    refine ⟨haccepted, trivial, fun i r' hr' => ?_⟩
    cases i with
    | zero =>
      obtain rfl : r = r' := by simpa using hr'
      refine ⟨_, rfl, ?_, by simpa using hok⟩
      simp only [hc, List.take_append, List.take_zero, List.flatMap_nil, List.append_nil]
      exact List.drop_left' rfl
    | succ i =>
      obtain ⟨reply, hreply, hadded, hresult⟩ := hreplies i r' (by simpa using hr')
      refine ⟨reply, by simpa using hreply, ?_, ?_⟩
      · rw [hadded, List.take_succ_cons, List.flatMap_cons, List.append_assoc]
      · rw [hresult, List.take_succ_cons, List.flatMap_cons, List.append_assoc]

/-- **Reports to a console with a limit.** Whatever is asked of a reporter, and however its console
refuses bytes and flushes, the console finally holds the first `limit` bytes of all texts in order.
Each request adds exactly the part of its text that lies below the limit. It succeeds exactly if
that is all of its text and, where it is to flush, as a failure, a banner and the end of a comparison
are, flushing succeeds. -/
theorem meetAll_limited (limit : ℕ) (whenFull : WhenFull) (flushFails : Bool)
    (requests : List Request) :
    let done := meetAll requests { limit, whenFull, flushFails }
    done.1.accepted = (requests.flatMap Request.text).take limit ∧
      done.2.length = requests.length ∧
      ∀ i r, requests[i]? = some r → ∃ reply, done.2[i]? = some reply ∧
        reply.added = r.text.take (limit - ((requests.take i).flatMap Request.text).length) ∧
        (reply.result = .ok () ↔
          (r.text = [] ∨ ((requests.take (i + 1)).flatMap Request.text).length ≤ limit) ∧
          (r.flushes = true → flushFails = false)) :=
  meetAll_of_offered [] rfl (by simp) requests

end Console

end Tandem
