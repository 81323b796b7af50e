import NiusZigbee.Zdo.Frame

/-!
# Device object

`ZigbeeDeviceObject` answers discovery requests from its static endpoint descriptors. A
match-descriptor request is walked where it lies, once for every endpoint.
-/

namespace NiusZigbee

open ByteCodec OutBuffer ZigbeeZdo

def zdoNwkAddrReq : UInt16 := 0x0000
def zdoIeeeAddrReq : UInt16 := 0x0001
def zdoSimpleDescReq : UInt16 := 0x0004
def zdoActiveEpReq : UInt16 := 0x0005
def zdoMatchDescReq : UInt16 := 0x0006
def zdoNwkAddrRsp : UInt16 := 0x8000
def zdoIeeeAddrRsp : UInt16 := 0x8001
def zdoSimpleDescRsp : UInt16 := 0x8004
def zdoActiveEpRsp : UInt16 := 0x8005
def zdoMatchDescRsp : UInt16 := 0x8006

structure ZigbeeEndpointDescriptor where
  endpoint : UInt8
  profileId : UInt16
  deviceId : UInt16
  deviceVersion : UInt8
  inputClusters : List UInt16
  outputClusters : List UInt16
deriving DecidableEq, Repr

structure ZigbeeDeviceObject where
  ieeeAddress : UInt64
  nwkAddress : UInt16
  endpoints : List ZigbeeEndpointDescriptor
deriving DecidableEq, Repr

namespace ZigbeeDeviceObject

def findEndpoint (device : ZigbeeDeviceObject) (endpoint : UInt8) :
    Option ZigbeeEndpointDescriptor :=
  device.endpoints.find? (·.endpoint = endpoint)

def containsCluster (clusters : List UInt16) (clusterId : UInt16) : Bool :=
  clusters.any (· = clusterId)

/-- Whether the `count` clusters at `list` in the payload are all offered; the loop stops at the
first that is not. -/
def clustersOffered (payload : List UInt8) (offered : List UInt16) : Nat → Nat → Option Bool
  | _, 0 => some true
  | list, count + 1 => do
      if containsCluster offered (← read16 payload list) then
        clustersOffered payload offered (list + 2) count
      else return false

def endpointMatches (device : ZigbeeDeviceObject) (payload : List UInt8) (endpoint : UInt8)
    (profileId : UInt16) (lists : ClusterLists) : Option Bool :=
  match device.findEndpoint endpoint with
  | none => some false
  | some desc =>
    if desc.profileId ≠ profileId then some false
    else do
      if ← clustersOffered payload desc.inputClusters (← lists.inputClusters)
          lists.inputClusterCount.toNat then
        clustersOffered payload desc.outputClusters (← lists.outputClusters)
          lists.outputClusterCount.toNat
      else return false

/-- The matching endpoints, as many as there is room for. -/
def matchingEndpoints (device : ZigbeeDeviceObject) (payload : List UInt8)
    (req : ZdoMatchDescriptorRequest) : List ZigbeeEndpointDescriptor → Nat → Option (List UInt8)
  | [], _ => some []
  | _ :: _, 0 => some []
  | desc :: rest, room + 1 => do
      if ← device.endpointMatches payload desc.endpoint req.profileId req.toClusterLists then
        return desc.endpoint :: (← device.matchingEndpoints payload req rest room)
      else device.matchingEndpoints payload req rest (room + 1)

def toZdoDescriptor (endpoint : ZigbeeEndpointDescriptor) : ZdoSimpleDescriptor where
  endpoint := endpoint.endpoint
  profileId := endpoint.profileId
  deviceId := endpoint.deviceId
  deviceVersion := endpoint.deviceVersion
  inputClusters := endpoint.inputClusters
  outputClusters := endpoint.outputClusters

/-- The response with its cluster id; `none` is a read outside the request. -/
def handleRequest (device : ZigbeeDeviceObject) (requestClusterId : UInt16)
    (requestPayload : List UInt8) (responsePayloadMax : UInt8) : Option (Built × UInt16) :=
  if requestClusterId = zdoIeeeAddrReq then do
    let (accepted, req) ← parseIeeeAddressRequest requestPayload
    if !accepted then return (.fail, 0)
    else if req.nwkAddress ≠ device.nwkAddress then return (.fail, 0)
    else
      return (buildAddressResponse responsePayloadMax req.sequence zdoStatusSuccess
        device.ieeeAddress device.nwkAddress [] 0, zdoIeeeAddrRsp)
  else if requestClusterId = zdoNwkAddrReq then do
    let (accepted, req) ← parseNwkAddressRequest requestPayload
    if !accepted then return (.fail, 0)
    else if req.ieeeAddress ≠ device.ieeeAddress then return (.fail, 0)
    else
      return (buildAddressResponse responsePayloadMax req.sequence zdoStatusSuccess
        device.ieeeAddress device.nwkAddress [] 0, zdoNwkAddrRsp)
  else if requestClusterId = zdoActiveEpReq then do
    let (accepted, req) ← parseActiveEndpointRequest requestPayload
    if !accepted then return (.fail, 0)
    else if req.nwkAddress ≠ device.nwkAddress then return (.fail, 0)
    else
      return (buildActiveEndpointResponse responsePayloadMax req.sequence zdoStatusSuccess
        device.nwkAddress ((device.endpoints.take 16).map (·.endpoint)), zdoActiveEpRsp)
  else if requestClusterId = zdoSimpleDescReq then do
    let (accepted, req) ← parseSimpleDescriptorRequest requestPayload
    if !accepted then return (.fail, 0)
    else if req.nwkAddress ≠ device.nwkAddress then return (.fail, 0)
    else
      match device.findEndpoint req.endpoint with
      | none =>
        return (buildSimpleDescriptorResponse responsePayloadMax req.sequence
          zdoStatusNoDescriptor device.nwkAddress none, zdoSimpleDescRsp)
      | some endpoint =>
        return (buildSimpleDescriptorResponse responsePayloadMax req.sequence zdoStatusSuccess
          device.nwkAddress (some (toZdoDescriptor endpoint)), zdoSimpleDescRsp)
  else if requestClusterId = zdoMatchDescReq then do
    let (accepted, req) ← parseMatchDescriptorRequest requestPayload
    if !accepted then return (.fail, 0)
    else if req.nwkAddress ≠ device.nwkAddress then return (.fail, 0)
    else
      let endpoints ← device.matchingEndpoints requestPayload req device.endpoints 16
      return (buildMatchDescriptorResponse responsePayloadMax req.sequence zdoStatusSuccess
        device.nwkAddress endpoints, zdoMatchDescRsp)
  else some (.fail, 0)

end ZigbeeDeviceObject

end NiusZigbee
