import DocTemplate.Cache.Basic

/-!
# Runs of a cache

What can be done with a cache, as data: a run is a list of steps, and reading a source may itself
run steps on the cache that it is read for.

## Main definitions

* `Cache.Step`, `Cache.Answer` — the steps and what they answer.
* `Cache.runAll` — a run.
-/

namespace DocTemplate

namespace Cache

/-- A step of a run. When a source has to be read, `during` is run on the cache first and `outcome`
is what reading gives. -/
inductive Step (α ε : Type) where
  | fetch (source : String) (during : List (Step α ε)) (outcome : Except ε α)
  | contains (source : String)
  | uses (source : String)
  | purge
  | clear
  | wait (millis : Nat)

/-- The answer of a step. A source that was read comes with the answers of the steps that ran
meanwhile. -/
inductive Answer (α ε : Type) where
  | fetched (result : Except ε α) (during : Option (List (Answer α ε)))
  | contains (present : Bool)
  | uses (count : Option Nat)
  | purged (count : Nat)
  | done

variable {α ε : Type}

mutual
/-- Runs a step. -/
def run (c : Cache α) : Step α ε → Answer α ε × Cache α
  | .fetch source during outcome =>
    let ((result, answers), c) := c.fetch source fun c =>
      let (answers, c) := runAll c during
      ((outcome, answers), c)
    (.fetched result answers, c)
  | .contains source => (.contains (c.contains source), c)
  | .uses source => (.uses (c.uses? source), c)
  | .purge => (.purged c.purge.1, c.purge.2)
  | .clear => (.done, c.clear)
  | .wait millis => (.done, c.wait millis)

/-- Runs several steps in order. -/
def runAll (c : Cache α) : List (Step α ε) → List (Answer α ε) × Cache α
  | [] => ([], c)
  | step :: steps =>
    let (answer, c) := run c step
    let (answers, c) := runAll c steps
    (answer :: answers, c)
end

end Cache

end DocTemplate
