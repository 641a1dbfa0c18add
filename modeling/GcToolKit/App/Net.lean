import GcToolKit.App.World
import GcToolKit.Net.Packet

/-!
# Sending a file (app/net.c)

The application's end of a transfer: a connection, the packet that starts it,
the bytes of the file, and the patch sent afterwards.
-/

namespace GcToolKit.App

open GcToolKit.Net

structure NetworkInfo where
  ipAddress : CString
  port : UInt16

def beginConnection (netInfo : NetworkInfo) (w : World) : Int × World :=
  let (socket, w) := w.outcome
  if socket < 0 then (socket, w)
  else
    let (res, w) := w.outcome
    if res < 0 then (res, (sceNetSocketClose socket w).2)
    else
      let (connection, w) := sceNetConnect socket netInfo.ipAddress netInfo.port w
      if connection < 0 then (connection, (sceNetSocketClose socket w).2) else (socket, w)

/-- `sceNetShutdown` and `sceNetSocketClose` -/
def endConnection (socket : SceUID) (w : World) : Int × World :=
  let (res, w) := w.outcome
  if res < 0 then (res, w)
  else
    let (res, w) := sceNetSocketClose socket w
    if res < 0 then (res, w) else (0, w)

def beginFileSend (socket : SceUID) (filename : CString) (fileSize : Nat) (w : World) :
    Int × World :=
  sceNetSend socket (sendFilePacket filename fileSize).toList w

def fileSendData (socket : SceUID) (data : List UInt8) (w : World) : Int × World :=
  sceNetSend socket data w

def sendFilePatch (socket : SceUID) (filename : CString) (offset : UInt32) (data : List UInt8)
    (w : World) : Int × World :=
  sceNetSend socket (patchFilePacket filename offset data).toList w

end GcToolKit.App
