import McpSqlServer.Tools.SqlTools

namespace McpSqlServer

open Library Library.Text Library.Python

variable {β α : Type} [UnicodeData] (S : Site β)

def tryBlock (call : ToolCall α) (body : α → Option Str → ToolM β Value) : ToolM β Value := do
  notify S
  let input ← Act.ofExcept call.check
  resolveActorAndAuthorize S call.required
  touchSession S (S.ctx.bind McpContext.sessionId)
  notifyIf S call.verbose
  allowRequest S
  notifyIf S call.verbose
  checkGuards S call.guards
  notifyIf S call.verbose
  let database ← Act.ofExcept call.target
  let reply ← body input database
  notify S
  pure reply

def passGates (call : ToolCall α) : ToolM β (α × Option Str) := do
  notify S
  let input ← Act.ofExcept call.check
  resolveActorAndAuthorize S call.required
  touchSession S (S.ctx.bind McpContext.sessionId)
  notifyIf S call.verbose
  allowRequest S
  notifyIf S call.verbose
  checkGuards S call.guards
  notifyIf S call.verbose
  let database ← Act.ofExcept call.target
  pure (input, database)

theorem tryBlock_eq (call : ToolCall α) (body : α → Option Str → ToolM β Value) : tryBlock S call body = (do
    let (input, database) ← passGates S call
    let reply ← body input database
    notify S
    pure reply) := by
  simp only [tryBlock, passGates, Act.bind_assoc, Act.pure_bind]

theorem runTool_eq (call : ToolCall α) (ladder : Exc → ToolM β Value) (body : α → Option Str → ToolM β Value)
    (w : World β) : runTool S call ladder body w =
      Act.ensuring (Act.catching (tryBlock S call body) ladder) (logAuditEvent S call.binding call.sql)
        (w.begin call.actor) := rfl

/-- What holds at the stages of a call: before its gates, and behind the authorization, the
session, the rate limit and the write guard. Each step goes on to the next stage or ends in `E`. -/
structure GateStages (call : ToolCall α) (P Q Q' R T : World β → Prop) (E : Exc → World β → Prop) : Prop where
  notified : Triple P (notify S) (fun _ ↦ P) E
  checked : ∀ e w, call.check = .error e → P w → E e w
  resolved : Triple P (resolveActorAndAuthorize S call.required) (fun _ ↦ Q) E
  touched : Triple Q (touchSession S (S.ctx.bind McpContext.sessionId)) (fun _ ↦ Q') E
  touched_notified : Triple Q' (notifyIf S call.verbose) (fun _ ↦ Q') E
  allowed : Triple Q' (allowRequest S) (fun _ ↦ R) E
  allowed_notified : Triple R (notifyIf S call.verbose) (fun _ ↦ R) E
  guarded : Triple R (checkGuards S call.guards) (fun _ ↦ T) E
  guarded_notified : Triple T (notifyIf S call.verbose) (fun _ ↦ T) E
  targeted : ∀ e w, call.target = .error e → T w → E e w

section Rules

variable {S} {call : ToolCall α} {body : α → Option Str → ToolM β Value} {ladder : Exc → ToolM β Value}
  {P₀ P Q Q' R T U V W : World β → Prop} {E : Exc → World β → Prop}

theorem passGates_triple (h : GateStages S call P Q Q' R T E) :
    Triple P (passGates S call) (fun p w ↦ (call.check = .ok p.1 ∧ call.target = .ok p.2) ∧ T w) E := by
  have hchecked : Triple P (Act.ofExcept call.check) (fun input w ↦ call.check = .ok input ∧ P w) E :=
    .ofExcept (fun _ _ hr hw ↦ ⟨hr, hw⟩) h.checked
  have htargeted : Triple T (Act.ofExcept call.target) (fun db w ↦ call.target = .ok db ∧ T w) E :=
    .ofExcept (fun _ _ hr hw ↦ ⟨hr, hw⟩) h.targeted
  refine .bind h.notified (fun _ ↦ .bind hchecked (fun input ↦ .extract (fun hinput ↦ ?_)))
  refine .bind h.resolved (fun _ ↦ .bind h.touched (fun _ ↦ .bind h.touched_notified (fun _ ↦ ?_)))
  refine .bind h.allowed (fun _ ↦ .bind h.allowed_notified (fun _ ↦ .bind h.guarded (fun _ ↦ ?_)))
  refine .bind h.guarded_notified (fun _ ↦ .bind htargeted (fun db ↦ .extract (fun hdb ↦ ?_)))
  exact .pure (fun w hw ↦ ⟨⟨hinput, hdb⟩, hw⟩)

theorem tryBlock_triple {X : Value → World β → Prop} (h : GateStages S call P Q Q' R T E)
    (hbody : ∀ input db, call.check = .ok input → call.target = .ok db → Triple T (body input db) X E)
    (hreply : ∀ v, Triple (X v) (notify S) (fun _ ↦ X v) E) : Triple P (tryBlock S call body) X E := by
  rw [tryBlock_eq]
  refine .bind (passGates_triple h) (fun p ↦ .extract (fun hp ↦ ?_))
  exact .bind (hbody p.1 p.2 hp.1 hp.2) (fun v ↦ .bind (hreply v) (fun _ ↦ .pure (fun _ hw ↦ hw)))

theorem tryBlock_refused (hnotified : Triple P (notify S) (fun _ ↦ P) E)
    (hchecked : ∀ e w, call.check = .error e → P w → E e w)
    (hrefused : Triple P (resolveActorAndAuthorize S call.required) (fun _ _ ↦ False) E) :
    Triple P (tryBlock S call body) (fun _ _ ↦ False) E := by
  refine .bind hnotified (fun _ ↦ .bind (R := fun _ ↦ P) (.ofExcept (fun _ _ _ hw ↦ hw) hchecked) (fun input ↦ ?_))
  exact .bind hrefused (fun _ _ hw ↦ hw.elim)

theorem runTool_triple (hbegin : ∀ w, P₀ w → P (w.begin call.actor)) (htry : Triple P (tryBlock S call body) (fun _ ↦ V) E)
    (hladder : ∀ e, Triple (E e) (ladder e) (fun _ ↦ V) (fun _ ↦ V))
    (hlog : Triple V (logAuditEvent S call.binding call.sql) (fun _ ↦ W) (fun _ ↦ W)) :
    Triple P₀ (runTool S call ladder body) (fun _ ↦ W) (fun _ ↦ W) := by
  intro w hw
  rw [runTool_eq]
  exact Triple.ensuring (.catching htry hladder) (fun _ ↦ hlog) (fun _ ↦ hlog) _ (hbegin w hw)

end Rules

end McpSqlServer
