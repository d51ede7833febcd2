import Leadership.Fault

set_option autoImplicit false

namespace Leadership

/-- How an executor answers a submission. A rejected unit never runs, and the caller knows; a
discarded one never runs either, but the caller takes it for accepted. -/
inductive Verdict where
  | accept
  | discard
  | reject (why : Fault)
deriving DecidableEq

structure Plan where
  upcoming : List Verdict := []
  thereafter : Verdict := .accept
deriving DecidableEq

namespace Plan

def next (p : Plan) : Verdict × Plan :=
  match p.upcoming with
  | [] => (p.thereafter, p)
  | v :: vs => (v, { p with upcoming := vs })

def verdict (standing : Verdict) (c : Char) : Verdict :=
  if c = 'r' then .reject (.executorRejected "executor is closed")
  else if c = 'd' then .discard
  else standing

/-- `a` accepts, `r` rejects and `d` discards; a final `*` repeats the letter before it for ever. -/
def ofText (standing : Verdict) (text : String) : Plan :=
  let cs := text.toList
  if cs.getLast? = some '*' then
    let verdicts := cs.dropLast.map (verdict standing)
    ⟨verdicts, verdicts.getLast?.getD standing⟩
  else ⟨cs.map (verdict standing), standing⟩

end Plan

end Leadership
