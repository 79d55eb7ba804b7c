import NovelScript.Session.Probe
import NovelScript.Diag.Render
/-!
# Driving the diagnostics engine

A diag request reports hand-made diagnostics through an engine whose sink is a bag, with or
without the repeat filter in front, and also resets counters, the filter or the bag,
replaces the policy or the sinks, and merges the bag into itself. Each step answers whether
the diagnostic was delivered, the diagnostic when the bag grew, and the counters.
-/

namespace NovelScript.Session

/-- The range a step names: a unit's span, or no range without a unit. -/
def stepRange (s : Json) : Range :=
  if s.has "unit" then
    ⟨(s.getInt "unit" % 65536).toNat, (s.getInt "off" % Int.pow 2 32).toNat, (s.getInt "len" % Int.pow 2 32).toNat⟩
  else Range.none

/-- One engine step: the engine after it and its answer members. -/
def diagStep (dedup : Bool) (e : Engine) (s : Json) : Engine × List (String × Json) :=
  let live : Sink := if dedup then .dedupBag else .bag
  match s.getStr "op" "diagnose" with
  | "diagnose" =>
    let before := e.bag.items.size
    let code : Code := (s.getInt "code" % 65536).toNat
    let e := e.diagnose (stepRange s) code ((s.get "args").items.map argOf).toArray
    let grown := if e.bag.items.size > before then
        match e.bag.items.back? with
        | some d => [("diag", View.diagnostic d)]
        | none => []
      else []
    (e, [("shown", .bool e.lastShown)] ++ grown)
  | "reset" => (e.reset, [])
  | "reset_dedup" => ({ e with dedup := {} }, [])
  | "set_policy" => ({ e with policy := Request.policyOf (s.get "policy") }, [])
  | "merge_self" => ({ e with bag := e.bag.merge e.bag }, [])
  | "merge_nil" => (e, [])
  | "bag_reset" => ({ e with bag := { e.bag with items := #[] } }, [])
  | "set_reporters" => ({ e with sinks := if s.getBool "nop" then [.discard] else [live] }, [])
  | op => (e, [("result", View.error "BadOp" s!"unknown op {op}".toUTF8)])

/-- The count of each code id in the bag, by id. -/
def codeCounts (b : Bag) : Json :=
  let ids := b.items.toList.foldl (fun (acc : List (String × Nat)) d =>
    let id := d.code.id
    (acc.filter (·.1 != id)) ++ [(id, b.count d.code)]) []
  .obj ((ids.mergeSort fun x y => x.1 ≤ y.1).map fun (k, n) => (k, .nat n))

/-- Answers a diag request. -/
def diagSession (j : Json) : Json :=
  let dedup := j.getBool "dedup"
  let e0 : Engine :=
    { policy := Request.policy j, sinks := [if dedup then .dedupBag else .bag],
      bag := { max := (j.getInt "bag_max").toNat } }
  let (e, steps) := (j.get "calls").items.foldl (fun (e, acc) s =>
    let (e, out) := diagStep dedup e s
    let tail := [("counts", View.counts e), ("did_error", .bool e.didError),
      ("effective_max", .int e.policy.effectiveMaxErrors)] ++
      (if dedup then [("dropped", .nat e.dedup.dropped)] else [])
    (e, acc.push (Json.obj ([("op", .str (s.getStr "op" "diagnose"))] ++ out ++ tail))))
    (e0, #[])
  .obj [("steps", .arr steps.toList), ("bag_len", .nat e.bag.items.size),
    ("has_errors", .bool e.bag.hasErrors), ("code_counts", codeCounts e.bag),
    ("golden", .ofBytes (Golden.format e.bag.items.toList Resolver.none "/" "/")),
    ("sorted", View.diagnostics e.bag.sorted.toList)]

end NovelScript.Session
