import Cantil.Firmware.Bonding

namespace Cantil.Clients
open Library

theorem paddedName_length (name : Bytes) : (padTo clientMetaNameMax (cString name)).length = clientMetaNameMax :=
  padTo_length _ _

/-- The record with another name. -/
def ClientMeta.renamed (record : ClientMeta) (name : Bytes) : ClientMeta :=
  { record with
    friendlyName := padTo clientMetaNameMax (cString name)
    friendlyName_length := paddedName_length name }

/-! The bonds with any other function for `client_bond_id`. -/

section Ids

variable (idOf : Bytes → Bytes)

def clientBondExistsBy (stack pub : Bytes) : Op Device Errno Bool := do
  let id := idOf pub
  if ← fileExists (.client id .pubkey) then idMatchesPub stack id pub else return false

def clientBondMetaReadBy (env : BondEnv) (pub : Bytes) : BondOp ClientMeta := do
  let id := idOf pub
  .ensure ((← onDevice (idMatchesPub (env.stack id).1 id pub)) = true) .enoent
  let buf ← storageClientBondMetaRead id
  .ensure (buf.length = clientMetaSize) .einval
  return .ofBytes buf

def clientBondRemoveBy (env : BondEnv) (pub : Bytes) : BondOp Unit := do
  let id := idOf pub
  if ← onDevice (fileExists (.client id .pubkey)) then
    .ensure ((← onDevice (idMatchesPub (env.stack id).1 id pub)) = true) .enoent
  storageClientBondDelete env id

def clientBondSetNameBy (env : BondEnv) (pub name : Bytes) : BondOp Unit := do
  .ensure ((cString name).length < clientMetaNameMax) .einval
  let record ← clientBondMetaReadBy idOf env pub
  storageClientBondMetaWrite env (idOf pub) (record.renamed name).bytes

def checkFreshBy (env : PairEnv) (pub : Bytes) : BondOp Unit := do
  let id := idOf pub
  if ← onDevice (fileExists (.client id .pubkey)) then
    if ← onDevice (idMatchesPub (env.stack id).1 id pub) then .fail .eexist else .fail .eaddrinuse

def storeBondBy (env : PairEnv) (pub : Bytes) (kind : ClientKind) (nowUnix : UInt32) : BondOp Unit := do
  let id := idOf pub
  storageClientBondPubkeyWrite env id pub
  match ← (storageClientBondMetaWrite env.toBondEnv id (newMeta kind nowUnix).bytes).attempt with
  | .ok () => pure ()
  | .error error =>
    let _ ← (storageClientBondDelete env.toBondEnv id).attempt
    .fail error

def clientBondAddBy (build : PairingBuild) (env : PairEnv) (pub : Bytes) (kind : ClientKind) (nowUnix : UInt32) :
    BondOp Unit := do
  .ensure ((← onDevice storageVolumeMayMint) = true) .erofs
  checkFreshBy idOf env pub
  checkCaps build env kind
  storeBondBy idOf env pub kind nowUnix

end Ids

/-! The firmware takes the first four bytes of a key. -/

theorem clientBondExistsBy_id : clientBondExistsBy clientBondId = clientBondExists := rfl

theorem clientBondAddBy_id : clientBondAddBy clientBondId = clientBondAdd := rfl

theorem clientBondRemoveBy_id : clientBondRemoveBy clientBondId = clientBondRemove := rfl

theorem clientBondSetNameBy_id : clientBondSetNameBy clientBondId = clientBondSetName := rfl

end Cantil.Clients
