import ApiContract.Request.Basic

/-! # The query cache

Several descriptors may ask one request for the pairs of its query string.  The cache asks the request
when it is first asked itself and keeps the answer, also when it is an error.

The cache shows descriptors what the request shows them, whatever it has been asked before
(`QueryCache.view_new`, `QueryCache.view_after`). -/

namespace ApiContract

/-- A request whose query string is parsed at most once. -/
structure QueryCache where
  inner : RequestView
  /-- The answer of the request, once it has been asked. -/
  kept : Option (Except ParameterError (List (String × String)))

namespace QueryCache

/-- The cache of a request that has not been asked. -/
def new (inner : RequestView) : QueryCache := ⟨inner, none⟩

/-- The pairs of the query string. -/
def pairs (q : QueryCache) : Except ParameterError (List (String × String)) :=
  q.kept.getD q.inner.pairs

/-- The cache when it has been asked for the pairs. -/
def asked (q : QueryCache) : QueryCache := { q with kept := some q.pairs }

/-- The cache when a descriptor has been read that may look for its value in the query string. -/
def after (q : QueryCache) (readsQuery : Bool) : QueryCache := if readsQuery then q.asked else q

/-- What descriptors see of a request through its cache. -/
def view (q : QueryCache) : RequestView := { q.inner with pairs := q.pairs }

theorem view_new (inner : RequestView) : (new inner).view = inner := rfl

theorem view_after (q : QueryCache) (readsQuery : Bool) : (q.after readsQuery).view = q.view := by
  unfold after
  split <;> rfl

end QueryCache
end ApiContract
