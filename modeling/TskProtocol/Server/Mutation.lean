import TskProtocol.Server.Store

namespace TskProtocol

/-- The mutations of the `TumblerMapStore` interface. -/
inductive StoreMutation
  | set (clientId : JsString) (map : TumblerMap)
  | delete (clientId : JsString)
  | updateCounters (clientId : JsString) (updates : OrderedMap JsString Int)
  | consumeCounter (clientId segmentId : JsString) (matchedCounter : Int)
  | commitValidation (clientId : JsString) (input : ValidationCommitInput)
  | replaceCredential (oldClientId : JsString) (replacement : TumblerMap)

inductive MutationResult
  | done
  | answer (ok : Bool)
  | committed (result : ValidationCommitResult)
  deriving DecidableEq, Repr

/-- A mutation of the memory store runs in one stretch. -/
def StoreMutation.perform (store : MemoryTumblerStore) :
    StoreMutation → Except StoreError MutationResult × MemoryTumblerStore
  | .set clientId map =>
    let (outcome, store) := store.set clientId map
    (outcome.map (fun _ => .done), store)
  | .delete clientId => (.ok .done, store.delete clientId)
  | .updateCounters clientId updates =>
    let (outcome, store) := store.updateCounters clientId updates
    (outcome.map (fun _ => .done), store)
  | .consumeCounter clientId segmentId matchedCounter =>
    let (outcome, store) := store.consumeCounter clientId segmentId matchedCounter
    (outcome.map .answer, store)
  | .commitValidation clientId input =>
    let (outcome, store) := store.commitValidation clientId input
    ((outcome.mapError .core).map .committed, store)
  | .replaceCredential oldClientId replacement =>
    let (outcome, store) := store.replaceCredential oldClientId replacement
    (outcome.map .answer, store)

end TskProtocol
