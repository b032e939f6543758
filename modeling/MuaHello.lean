import MuaHello.Pn532.ParserSafety
import MuaHello.Pn532.Corruption
import MuaHello.Pn532.Collision
import MuaHello.Pn532.SendSafety
import MuaHello.Pn532.Session
import MuaHello.Pn532.Card
import MuaHello.Log.Balance
import MuaHello.Log.Ident
import MuaHello.SndWav.Lplay
import MuaHello.Ubus.CountSession
import MuaHello.Ubus.Lines
import MuaHello.Ubus.Keys
import MuaHello.Ubus.Dump
