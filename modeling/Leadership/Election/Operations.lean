import Leadership.Election.Desk

set_option autoImplicit false

namespace Leadership.Desk

def twiceContender (component : String) : Fault :=
  .protocolViolation ("leader election '" ++ component ++
    "' was added to this service multiple times")

def strangeContender (component : String) : Fault :=
  .protocolViolation ("leader election '" ++ component ++ "' does not belong to this service")

def twiceListener : Fault :=
  .protocolViolation "leader retrieval service was added to this service multiple times"

def strangeListener : Fault :=
  .protocolViolation "leader retrieval service does not belong to this service"

def plain : Except Fault Completion × Desk → Except Fault Unit × Desk
  | (.ok _, d) => (.ok (), d)
  | (.error f, d) => (.error f, d)

def startContender (d : Desk) (c : Contender) (party : Nat) : Except Fault Unit × Desk :=
  if d.down then (.error .alreadyShutdown, d)
  else
    match (if d.active c.id then none else d.contenders.add? ⟨c, party⟩) with
    | none => settle (.error (twiceContender c.label), d)
    | some contenders =>
      let d := { d with contenders := contenders }
      let d := (d.setActive c.id true).note (.registered c.label)
      settle (plain d.elect)

def withdraw (d : Desk) (c : Contender) (contenders : Roster String) : Desk :=
  let d := { d with contenders := contenders }
  let d := (d.setActive c.id false).setLeading c.id false
  (d.unconfirm c.id).unpropose c.id

/-- If the contender held the slot, its revoke comes before the proposal of a successor. -/
def removeContender (d : Desk) (c : Contender) : Desk :=
  if d.active c.id = false ∨ d.down then d
  else
    match d.contenders.remove? c with
    | none => d.fail (strangeContender c.label)
    | some (m, contenders) =>
      let wasLeader := d.leading c.id
      let d := (d.withdraw c contenders).note (.removed c.label wasLeader)
      let revoked : Except Fault Completion × Desk :=
        if wasLeader then d.submit (.revoke m) else (.ok .done, d)
      match revoked with
      | (.error f, d) => d.fail f
      | (.ok _, d) => (settle d.elect).2

def commit (d : Desk) (c : Contender) (address : String) (now : Instant) : Desk :=
  { d with slot := { d.slot with
      confirmed := some c.id, proposed := none, address := some address, since := some now } }

def signal : Except Fault Completion × Desk → Completion × Desk
  | (.ok completion, d) => (completion, d)
  | (.error f, d) => (.done, d.fail f)

/-- Only the current proposal can be confirmed, by the contender it was made to and with its token;
anything else is ignored. -/
def confirm (d : Desk) (c : Contender) (token : Fence) (address : String) (now : Instant) :
    Completion × Desk :=
  if d.active c.id = false ∨ d.down then (.done, d.note (.inactive c.label))
  else if d.slot.proposed ≠ some c.id ∨ d.slot.token ≠ some token then
    (.done, d.note (.stale c.label token))
  else
    let d := (d.note (.confirmed c.label address token)).commit c address now
    signal (d.announceAll (some ⟨address, token⟩))

def startListener (d : Desk) (l : Listener) (party : Nat) : Except Fault Unit × Desk :=
  if d.down then (.error .alreadyShutdown, d)
  else
    match (if d.active l.id then none else d.listeners.add? ⟨l, party⟩) with
    | none => settle (.error twiceListener, d)
    | some listeners =>
      let d := { d with listeners := listeners }
      let d := d.setActive l.id true
      match d.slot.leader? with
      | none => (.ok (), d)
      | some leader => settle (plain (d.submit (.notify ⟨l, party⟩ (some leader))))

def removeListener (d : Desk) (l : Listener) : Desk :=
  if d.active l.id = false ∨ d.down then d
  else
    match d.listeners.remove? l with
    | none => d.fail strangeListener
    | some (_, listeners) => { d with listeners := listeners }.setActive l.id false

def grant (d : Desk) : Except Fault Completion × Desk :=
  if d.down then (.error .alreadyShutdown, d) else settle d.elect

def depose (d : Desk) (m : Member String) : Desk :=
  (d.vacate.note (.revoking m.registration.label)).setLeading m.id false

/-- Takes leadership away and tells all listeners that there is no leader. Nobody is proposed
instead. -/
def revoke (d : Desk) : Except Fault Completion × Desk :=
  if d.down then (.error .alreadyShutdown, d)
  else
    match d.slot.holder? with
    | none => (.ok .done, d)
    | some id =>
      match d.contenders.get? id with
      | none => settle (d.vacate.announceAll none)
      | some m =>
        match (d.depose m).submit (.revoke m) with
        | (.error f, d) => (.error .alreadyShutdown, d.fail f)
        | (.ok revoked, d) =>
          match settle (d.announceAll none) with
          | (.ok told, d) => (.ok (revoked.merge told), d)
          | (.error f, d) => (.error f, d)

end Leadership.Desk
