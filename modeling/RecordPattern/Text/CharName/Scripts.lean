namespace RecordPattern.Text.CharName

-- Names of letters and signs of scripts.
def scripts : String :=
  "+20aSPACEaEXCLAMATION MARKabQUOTATIONaNUMBER SIGNabDOLLARabPERCENTaAMPERSANDaAPOSTROPHE
  aLEFT PARENTHESISabRIGHTaASTERISKaPLUS SIGNaCOMMAaHYPHEN-MINUSaFULL STOPaSOLIDUSaDIGIT ZERObONE
  bTWObTHREEbFOURbFIVEbSIXbSEVENbEIGHTbNINEaCOLONaSEMICOLONaLESS-THAN SIGNabEQUALSabGREATER-THAN
  aQUESTION MARKaCOMMERCIAL ATaLATIN CAPITAL LETTER AdBdCdDdEdFdGdHdIdJdKdLdMdNdOdPdQdRdSdTdUdVdWdX
  dYdZaLEFT SQUARE BRACKETaREVERSE SOLIDUSaRIGHT SQUARE BRACKETaCIRCUMFLEX ACCENTaLOW LINE
  aGRAVE ACCENTaLATIN SMALL LETTER AdBdCdDdEdFdGdHdIdJdKdLdMdNdOdPdQdRdSdTdUdVdWdXdYdZ
  aLEFT CURLY BRACKETaVERTICAL LINEaRIGHT CURLY BRACKETaTILDE+A0aNO-BREAK SPACE
  aINVERTED EXCLAMATION MARKaCENT SIGNabPOUNDabCURRENCYabYENaBROKEN BARaSECTION SIGNaDIAERESIS
  aCOPYRIGHT SIGNaFEMININE ORDINAL INDICATORaLEFT-POINTING DOUBLE ANGLE QUOTATION MARKaNOT SIGN
  aSOFT HYPHENaREGISTERED SIGNaMACRONaDEGREE SIGNabPLUS-MINUSaSUPERSCRIPT TWObTHREEaACUTE ACCENT
  aMICRO SIGNabPILCROWaMIDDLE DOTaCEDILLAaSUPERSCRIPT ONEaMASCULINE ORDINAL INDICATOR
  aRIGHT-POINTING DOUBLE ANGLE QUOTATION MARKaVULGAR FRACTION ONE QUARTERdHALFcTHREE QUARTERS
  aINVERTED QUESTION MARKaLATIN CAPITAL LETTER A WITH GRAVEfACUTEfCIRCUMFLEXfTILDEfDIAERESIS
  fRING ABOVEdAEdC WITH CEDILLAdE WITH GRAVEfACUTEfCIRCUMFLEXfDIAERESISdI WITH GRAVEfACUTE
  fCIRCUMFLEXfDIAERESISdETHdN WITH TILDEdO WITH GRAVEfACUTEfCIRCUMFLEXfTILDEfDIAERESIS
  aMULTIPLICATION SIGNaLATIN CAPITAL LETTER O WITH STROKEdU WITH GRAVEfACUTEfCIRCUMFLEXfDIAERESIS
  dY WITH ACUTEdTHORNbSMALL LETTER SHARP SdA WITH GRAVEfACUTEfCIRCUMFLEXfTILDEfDIAERESISfRING ABOVE
  dAEdC WITH CEDILLAdE WITH GRAVEfACUTEfCIRCUMFLEXfDIAERESISdI WITH GRAVEfACUTEfCIRCUMFLEXfDIAERESIS
  dETHdN WITH TILDEdO WITH GRAVEfACUTEfCIRCUMFLEXfTILDEfDIAERESISaDIVISION SIGN
  aLATIN SMALL LETTER O WITH STROKEdU WITH GRAVEfACUTEfCIRCUMFLEXfDIAERESISdY WITH ACUTEdTHORN
  dY WITH DIAERESISbCAPITAL LETTER A WITH MACRONbeSMALLbCAPITAL LETTER A WITH BREVEbeSMALL
  bCAPITAL LETTER A WITH OGONEKbeSMALLbCAPITAL LETTER C WITH ACUTEbeSMALL
  bCAPITAL LETTER C WITH CIRCUMFLEXbeSMALLbCAPITAL LETTER C WITH DOT ABOVEbfSMALL
  bCAPITAL LETTER C WITH CARONbeSMALLbcCAPITAL LETTER DbeSMALLbCAPITAL LETTER D WITH STROKEbeSMALL
  bCAPITAL LETTER E WITH MACRONbeSMALLbCAPITAL LETTER E WITH BREVEbeSMALL
  bCAPITAL LETTER E WITH DOT ABOVEbfSMALLbCAPITAL LETTER E WITH OGONEKbeSMALL
  bCAPITAL LETTER E WITH CARONbeSMALLbCAPITAL LETTER G WITH CIRCUMFLEXbeSMALL
  bCAPITAL LETTER G WITH BREVEbeSMALLbCAPITAL LETTER G WITH DOT ABOVEbfSMALL
  bCAPITAL LETTER G WITH CEDILLAbeSMALLbCAPITAL LETTER H WITH CIRCUMFLEXbeSMALL
  bCAPITAL LETTER H WITH STROKEbeSMALLbCAPITAL LETTER I WITH TILDEbeSMALL
  bCAPITAL LETTER I WITH MACRONbeSMALLbCAPITAL LETTER I WITH BREVEbeSMALL
  bCAPITAL LETTER I WITH OGONEKbeSMALLbCAPITAL LETTER I WITH DOT ABOVEbSMALL LETTER DOTLESS I
  bCAPITAL LIGATURE IJbcSMALLbCAPITAL LETTER J WITH CIRCUMFLEXbeSMALLbCAPITAL LETTER K WITH CEDILLA
  beSMALLdKRAbCAPITAL LETTER L WITH ACUTEbeSMALLbCAPITAL LETTER L WITH CEDILLAbeSMALL
  bCAPITAL LETTER L WITH CARONbeSMALLbCAPITAL LETTER L WITH MIDDLE DOTbfSMALL
  bCAPITAL LETTER L WITH STROKEbeSMALLbCAPITAL LETTER N WITH ACUTEbeSMALL
  bCAPITAL LETTER N WITH CEDILLAbeSMALLbCAPITAL LETTER N WITH CARONbeSMALLePRECEDED BY APOSTROPHE
  bCAPITAL LETTER ENGbcSMALLbCAPITAL LETTER O WITH MACRONbeSMALLbCAPITAL LETTER O WITH BREVEbeSMALL
  bCAPITAL LETTER O WITH DOUBLE ACUTEbfSMALLbCAPITAL LIGATURE OEbcSMALLbCAPITAL LETTER R WITH ACUTE
  beSMALLbCAPITAL LETTER R WITH CEDILLAbeSMALLbCAPITAL LETTER R WITH CARONbeSMALL
  bCAPITAL LETTER S WITH ACUTEbeSMALLbCAPITAL LETTER S WITH CIRCUMFLEXbeSMALL
  bCAPITAL LETTER S WITH CEDILLAbeSMALLbCAPITAL LETTER S WITH CARONbeSMALL
  bCAPITAL LETTER T WITH CEDILLAbeSMALLbCAPITAL LETTER T WITH CARONbeSMALL
  bCAPITAL LETTER T WITH STROKEbeSMALLbCAPITAL LETTER U WITH TILDEbeSMALL
  bCAPITAL LETTER U WITH MACRONbeSMALLbCAPITAL LETTER U WITH BREVEbeSMALL
  bCAPITAL LETTER U WITH RING ABOVEbfSMALLbCAPITAL LETTER U WITH DOUBLE ACUTEbfSMALL
  bCAPITAL LETTER U WITH OGONEKbeSMALLbCAPITAL LETTER W WITH CIRCUMFLEXbeSMALLbcCAPITAL LETTER Y
  beSMALLbCAPITAL LETTER Y WITH DIAERESISdZ WITH ACUTEbeSMALLbCAPITAL LETTER Z WITH DOT ABOVEbfSMALL
  bCAPITAL LETTER Z WITH CARONbeSMALLdLONG SdB WITH STROKEbCAPITAL LETTER B WITH HOOKfTOPBARbeSMALL
  bCAPITAL LETTER TONE SIXbdSMALLbCAPITAL LETTER OPEN OdC WITH HOOKbeSMALLbCAPITAL LETTER AFRICAN D
  dD WITH HOOKfTOPBARbeSMALLdTURNED DELTAbCAPITAL LETTER REVERSED EdSCHWAdOPEN EdF WITH HOOKbeSMALL
  bcCAPITAL LETTER GdGAMMAbSMALL LETTER HVbCAPITAL LETTER IOTAdI WITH STROKEdK WITH HOOKbeSMALL
  dL WITH BARdLAMBDA WITH STROKEbCAPITAL LETTER TURNED MdN WITH LEFT HOOK
  bSMALL LETTER N WITH LONG RIGHT LEGbCAPITAL LETTER O WITH MIDDLE TILDEfHORNbeSMALL
  bCAPITAL LETTER OIbcSMALLbCAPITAL LETTER P WITH HOOKbeSMALLbLETTER YRbCAPITAL LETTER TONE TWO
  bdSMALLbCAPITAL LETTER ESHbLETTER REVERSED ESH LOOPbSMALL LETTER T WITH PALATAL HOOK
  bbCAPITAL LETTER T WITHbeSMALLbbCAPITAL LETTER T WITH RETROFLEXdU WITH HORNbeSMALL
  bCAPITAL LETTER UPSILONdV WITH HOOKdcYbeSMALLbCAPITAL LETTER Z WITH STROKEbeSMALL
  bCAPITAL LETTER EZHeREVERSEDbdSMALLeWITH TAILbLETTER TWO WITH STROKEbCAPITAL LETTER TONE FIVE
  bdSMALLbLETTER INVERTED GLOTTAL STOP WITH STROKEcWYNNcDENTAL CLICKcbLATERALcbALVEOLARcbRETROFLEX
  bCAPITAL LETTER DZ WITH CARONdcD WITH SMALL LETTER ZbcSMALL LETTER DZbCAPITAL LETTER LJ
  dL WITH SMALL LETTER JbSMALL LETTER LJbCAPITAL LETTER NJdN WITH SMALL LETTER JbSMALL LETTER NJ
  bCAPITAL LETTER A WITH CARONbeSMALLbcCAPITAL LETTER IbeSMALLbcCAPITAL LETTER ObeSMALL
  bcCAPITAL LETTER UbeSMALLbCAPITAL LETTER U WITH DIAERESIS AND MACRONbgSMALL
  bCAPITAL LETTER U WITH DIAERESIS AND ACUTEbgSMALLbCAPITAL LETTER U WITH DIAERESIS AND CARONbgSMALL
  bCAPITAL LETTER U WITH DIAERESIS AND GRAVEbgSMALLdTURNED E
  bCAPITAL LETTER A WITH DIAERESIS AND MACRONbgSMALLbcCAPITAL LETTER A WITH DOT ABOVEbhSMALL
  bbCAPITAL LETTER AE WITHbeSMALLbCAPITAL LETTER G WITH STROKEbeSMALLbCAPITAL LETTER G WITH CARON
  beSMALLbcCAPITAL LETTER KbeSMALLbCAPITAL LETTER O WITH OGONEKbeSMALL
  bCAPITAL LETTER O WITH OGONEK AND MACRONbgSMALLbCAPITAL LETTER EZH WITH CARONbeSMALLdcJ
  bCAPITAL LETTER DZdD WITH SMALL LETTER ZbSMALL LETTER DZbCAPITAL LETTER G WITH ACUTEbeSMALL
  bCAPITAL LETTER HWAIRdWYNNdN WITH GRAVEbeSMALLbCAPITAL LETTER A WITH RING ABOVE AND ACUTEbhSMALL
  bbCAPITAL LETTER AE WITHbeSMALLbbCAPITAL LETTER O WITH STROKE ANDbgSMALL
  bCAPITAL LETTER A WITH DOUBLE GRAVEbfSMALLbCAPITAL LETTER A WITH INVERTED BREVEbfSMALL
  bCAPITAL LETTER E WITH DOUBLE GRAVEbfSMALLbCAPITAL LETTER E WITH INVERTED BREVEbfSMALL
  bCAPITAL LETTER I WITH DOUBLE GRAVEbfSMALLbCAPITAL LETTER I WITH INVERTED BREVEbfSMALL
  bCAPITAL LETTER O WITH DOUBLE GRAVEbfSMALLbCAPITAL LETTER O WITH INVERTED BREVEbfSMALL
  bCAPITAL LETTER R WITH DOUBLE GRAVEbfSMALLbCAPITAL LETTER R WITH INVERTED BREVEbfSMALL
  bCAPITAL LETTER U WITH DOUBLE GRAVEbfSMALLbCAPITAL LETTER U WITH INVERTED BREVEbfSMALL
  bCAPITAL LETTER S WITH COMMA BELOWbfSMALLbdCAPITAL LETTER TbfSMALLbCAPITAL LETTER YOGHbcSMALL
  bCAPITAL LETTER H WITH CARONbeSMALLbCAPITAL LETTER N WITH LONG RIGHT LEGbSMALL LETTER D WITH CURL
  bCAPITAL LETTER OUbcSMALLbCAPITAL LETTER Z WITH HOOKbeSMALLbCAPITAL LETTER A WITH DOT ABOVEbfSMALL
  bCAPITAL LETTER E WITH CEDILLAbeSMALLbCAPITAL LETTER O WITH DIAERESIS AND MACRONbgSMALL
  bcCAPITAL LETTER O WITH TILDEbgSMALLbCAPITAL LETTER O WITH DOT ABOVEbfSMALL
  bCAPITAL LETTER O WITH DOT ABOVE AND MACRONbhSMALLbbCAPITAL LETTER Y WITHbeSMALLdL WITH CURLdcNdcT
  dDOTLESS JdDB DIGRAPHdbQPbCAPITAL LETTER A WITH STROKEdcCbeSMALLbCAPITAL LETTER L WITH BAR
  dT WITH DIAGONAL STROKEbSMALL LETTER S WITH SWASH TAILddZbCAPITAL LETTER GLOTTAL STOPbdSMALL
  bCAPITAL LETTER B WITH STROKEdU BARdTURNED VdE WITH STROKEbeSMALLbcCAPITAL LETTER JbeSMALL
  bCAPITAL LETTER SMALL Q WITH HOOK TAILbeSMALL LETTERbCAPITAL LETTER R WITH STROKEbeSMALL
  bcCAPITAL LETTER YbeSMALLdTURNED AdALPHAdbTURNEDdB WITH HOOKdOPEN OdC WITH CURLdD WITH TAILfHOOK
  dREVERSED EdSCHWAeWITH HOOKdOPEN EdcREVERSEDgWITH HOOKdCLOSED REVERSED OPEN E
  dDOTLESS J WITH STROKEdG WITH HOOKdSCRIPT GbbLETTER SMALL CAPITALbSMALL LETTER GAMMAdRAMS HORN
  dTURNED HdH WITH HOOKdcHENGdI WITH STROKEdIOTAbLETTER SMALL CAPITAL I
  bSMALL LETTER L WITH MIDDLE TILDEfBELTfRETROFLEX HOOKdLEZHdTURNED MfWITH LONG LEGdM WITH HOOK
  dbN WITH LEFTfbRETROFLEXbLETTER SMALL CAPITAL NbSMALL LETTER BARRED ObLETTER SMALL CAPITAL OE
  bSMALL LETTER CLOSED OMEGAdPHIdTURNED RfWITH LONG LEGgHOOKdR WITH LONG LEGfTAILfFISHHOOKddREVERSED
  bLETTER SMALL CAPITAL RebINVERTEDbSMALL LETTER S WITH HOOKdESHdDOTLESS J WITH STROKE AND HOOK
  dSQUAT REVERSED ESHdESH WITH CURLdTURNED TdT WITH RETROFLEX HOOKdU BARdUPSILONdV WITH HOOK
  dTURNED VeWeYbbLETTER SMALL CAPITALbSMALL LETTER Z WITH RETROFLEX HOOKfCURLdEZHeWITH CURL
  bLETTER GLOTTAL STOPcPHARYNGEAL VOICED FRICATIVEcINVERTED GLOTTAL STOPcSTRETCHED CcBILABIAL CLICK
  cSMALL CAPITAL BbSMALL LETTER CLOSED OPEN EbLETTER SMALL CAPITAL G WITH HOOKeH
  bSMALL LETTER J WITH CROSSED-TAILdTURNED KbLETTER SMALL CAPITAL LbSMALL LETTER Q WITH HOOK
  bLETTER GLOTTAL STOP WITH STROKEceREVERSEDbSMALL LETTER DZ DIGRAPHdbDEZHdDZ DIGRAPH WITH CURL
  dTS DIGRAPHdbTESHdTC DIGRAPH WITH CURLdFENG DIGRAPHdbLSdbLZbLETTER BILABIAL PERCUSSIVEcbBIDENTAL
  bSMALL LETTER TURNED H WITH FISHHOOKhAND TAILaMODIFIER LETTER SMALL HeWITH HOOKdJdRdbTURNED
  fWITH HOOKdCAPITAL INVERTED RdWdYcPRIMEcbDOUBLEcTURNED COMMAcAPOSTROPHEcREVERSED COMMA
  cRIGHT HALF RINGccLEFTcGLOTTAL STOPccREVERSEDcLEFT ARROWHEADcbRIGHTcbUPcbDOWNcCIRCUMFLEX ACCENT
  aCARONaMODIFIER LETTER VERTICAL LINEcMACRONcACUTE ACCENTcbGRAVEcLOW VERTICAL LINEdMACRON
  dGRAVE ACCENTdbACUTEcTRIANGULAR COLONccHALFcCENTRED RIGHT HALF RINGdcLEFTcUP TACKcbDOWNcPLUS SIGN
  cbMINUSaBREVEaDOT ABOVEabRINGaOGONEKaSMALL TILDEaDOUBLE ACUTE ACCENTaMODIFIER LETTER RHOTIC HOOK
  cCROSS ACCENTcSMALL GAMMAdLdSdXdREVERSED GLOTTAL STOPcEXTRA-HIGH TONE BARccHIGHccMIDccLOW
  ccEXTRA-LOWcYIN DEPARTING TONE MARKcdYANGcVOICINGcUNASPIRATEDcDOUBLE APOSTROPHEcLOW DOWN ARROWHEAD
  dbUPdbLEFTdbRIGHTdRINGcMIDDLE GRAVE ACCENTdcDOUBLEebACUTEcLOW TILDEcRAISED COLONcBEGIN HIGH TONE
  ccENDcbBEGIN LOWccENDcSHELFcbOPENcLOW LEFT ARROWaCOMBINING GRAVE ACCENTbbACUTEbbCIRCUMFLEXbTILDE
  bMACRONbOVERLINEbBREVEbDOT ABOVEbDIAERESISbHOOK ABOVEbbRINGbDOUBLE ACUTE ACCENTbCARON
  bVERTICAL LINE ABOVEbdDOUBLEcGRAVE ACCENTbCANDRABINDUbINVERTED BREVEbTURNED COMMA ABOVEbc
  +314bcREVERSEDbCOMMA ABOVE RIGHTbGRAVE ACCENT BELOWbcACUTEbbLEFT TACKbcRIGHTbLEFT ANGLE ABOVEbHORN
  bLEFT HALF RING BELOWbbUP TACKbcDOWNbbPLUS SIGNbcMINUSbbPALATALIZED HOOKbcRETROFLEXbbDOT
  bbDIAERESISbbRINGbbCOMMAbCEDILLAbOGONEKbVERTICAL LINE BELOWbbBRIDGEbbINVERTED DOUBLE ARCHbbCARON
  bbCIRCUMFLEX ACCENTbbBREVEbcINVERTEDbbTILDEbbMACRONbLOW LINEbcDOUBLEbTILDE OVERLAYbbSHORT STROKE
  bcLONGbbSHORT SOLIDUSbcLONGbRIGHT HALF RING BELOWbbINVERTED BRIDGEbbSQUAREbbSEAGULLbX ABOVE
  bVERTICAL TILDEbDOUBLE OVERLINEbGRAVE TONE MARKbcACUTEbGREEK PERISPOMENIcKORONIScDIALYTIKA TONOS
  cYPOGEGRAMMENIbBRIDGE ABOVEbEQUALS SIGN BELOWbbDOUBLE VERTICAL LINEbbLEFT ANGLEbNOT TILDE ABOVE
  bbHOMOTHETICbbALMOST EQUAL TObLEFT RIGHT ARROW BELOWbcUPWARDSbGRAPHEME JOINER
  bRIGHT ARROWHEAD ABOVEbbLEFT HALF RINGbFERMATAbX BELOWbbLEFT ARROWHEADbcRIGHTdbAND UP ARROWHEAD
  cHALF RING ABOVEbDOT ABOVE RIGHTbASTERISK BELOWbbDOUBLE RINGbZIGZAG ABOVEbDOUBLE BREVE BELOWd
  +35EcMACRONdBELOWcTILDEcINVERTED BREVEcRIGHTWARDS ARROW BELOWbLATIN SMALL LETTER AeEeIeOeUeCeDeHeM
  eReTeVeXaGREEK CAPITAL LETTER HETAbcSMALLbCAPITAL LETTER ARCHAIC SAMPIbdSMALLbNUMERAL SIGNbcLOWER
  bCAPITAL LETTER PAMPHYLIAN DIGAMMAbdSMALL+37AbYPOGEGRAMMENIbSMALL REVERSED LUNATE SIGMA SYMBOL
  cdDOTTEDceREVERSEDbQUESTION MARKbCAPITAL LETTER YOT+384bTONOSbbDIALYTIKA
  bbCAPITAL LETTER ALPHA WITHbANO TELEIAbCAPITAL LETTER EPSILON WITH TONOSdcETAdcIOTA+38CdcOMICRON
  +38EdcUPSILONdcOMEGAbbSMALL LETTER IOTA WITH DIALYTIKA ANDbCAPITAL LETTER ALPHAdBETAdGAMMAdDELTA
  dEPSILONdZETAdETAdTHETAdIOTAdKAPPAdLAMDAdMUdNUdXIdOMICRONdPIdRHO+3A3dSIGMAdTAUdUPSILONdPHIdCHIdPSI
  dOMEGAdIOTA WITH DIALYTIKAdcUPSILONbSMALL LETTER ALPHA WITH TONOSdcEPSILONdcETAdcIOTA
  dbUPSILON WITH DIALYTIKA ANDdALPHAdBETAdGAMMAdDELTAdEPSILONdZETAdETAdTHETAdIOTAdKAPPAdLAMDAdMUdNU
  dXIdOMICRONdPIdRHOdFINAL SIGMAdb+3C4dTAUdUPSILONdPHIdCHIdPSIdOMEGAdIOTA WITH DIALYTIKAdcUPSILON
  dOMICRON WITH TONOSdcUPSILONdcOMEGAbCAPITAL KAI SYMBOLbbBETAbbTHETAbbUPSILON WITH HOOKdcACUTE AND
  ddDIAERESISbbPHIbbPIbbKAIbLETTER ARCHAIC KOPPAbdSMALLbLETTER STIGMAbcSMALLbLETTER DIGAMMAbcSMALL
  bLETTER KOPPAbcSMALLbLETTER SAMPIbcSMALLaCOPTIC CAPITAL LETTER SHEIbcSMALLbCAPITAL LETTER FEI
  bcSMALLbCAPITAL LETTER KHEIbcSMALLbCAPITAL LETTER HORIbcSMALLbCAPITAL LETTER GANGIAbcSMALL
  bCAPITAL LETTER SHIMAbcSMALLbCAPITAL LETTER DEIbcSMALLaGREEK KAPPA SYMBOLbbRHObbLUNATE SIGMA
  bLETTER YOTbCAPITAL THETA SYMBOLbbLUNATE EPSILONbdREVERSEDbCAPITAL LETTER SHObcSMALL
  bCAPITAL LUNATE SIGMA SYMBOLcLETTER SANbcSMALLbRHO WITH STROKE SYMBOL
  bbCAPITAL REVERSED LUNATE SIGMAcdDOTTEDceREVERSEDaCYRILLIC CAPITAL LETTER IE WITH GRAVEdIOdDJEdGJE
  dUKRAINIAN IEdDZEdBYELORUSSIAN-UKRAINIAN IdYIdJEdLJEdNJEdTSHEdKJEdI WITH GRAVEdSHORT UdDZHEdAdBE
  dVEdGHEdDEdIEdZHEdZEdIdbSHORTdKAdELdEMdENdOdPEdERdESdTEdUdEFdHAdTSEdCHEdSHAdSHCHAdHARD SIGNdYERU
  dSOFT SIGNdEdYUdYAbSMALL LETTER AdBEdVEdGHEdDEdIEdZHEdZEdIdbSHORTdKAdELdEMdENdOdPEdERdESdTEdUdEF
  dHAdTSEdCHEdSHAdSHCHAdHARD SIGNdYERUdSOFT SIGNdEdYUdYAdIE WITH GRAVEdIOdDJEdGJEdUKRAINIAN IEdDZE
  dBYELORUSSIAN-UKRAINIAN IdYIdJEdLJEdNJEdTSHEdKJEdI WITH GRAVEdSHORT UdDZHEbCAPITAL LETTER OMEGA
  bcSMALLbCAPITAL LETTER YATbcSMALLbCAPITAL LETTER IOTIFIED EbdSMALLbCAPITAL LETTER LITTLE YUS
  bdSMALLbcCAPITAL LETTER IOTIFIEDbeSMALLbbCAPITAL LETTER BIGbdSMALLbcCAPITAL LETTER IOTIFIEDbeSMALL
  bCAPITAL LETTER KSIbcSMALLbCAPITAL LETTER PSIbcSMALLbCAPITAL LETTER FITAbcSMALL
  bCAPITAL LETTER IZHITSAbcSMALLbCAPITAL LETTER IZHITSA WITH DOUBLE GRAVE ACCENTbgSMALL
  bCAPITAL LETTER UKbcSMALLbCAPITAL LETTER ROUND OMEGAbdSMALLbCAPITAL LETTER OMEGA WITH TITLObeSMALL
  bCAPITAL LETTER OTbcSMALLbCAPITAL LETTER KOPPAbcSMALLbTHOUSANDS SIGNaCOMBINING CYRILLIC TITLO
  cPALATALIZATIONcDASIA PNEUMATAcbPSILIcPOKRYTIEcHUNDRED THOUSANDS SIGNcbMILLIONS
  aCYRILLIC CAPITAL LETTER SHORT I WITH TAILbfSMALLbCAPITAL LETTER SEMISOFT SIGNbdSMALL
  bCAPITAL LETTER ER WITH TICKbeSMALLbCAPITAL LETTER GHE WITH UPTURNbeSMALL
  bCAPITAL LETTER GHE WITH STROKEbeSMALLbCAPITAL LETTER GHE WITH MIDDLE HOOKbfSMALL
  bCAPITAL LETTER ZHE WITH DESCENDERbeSMALLbcCAPITAL LETTER ZEbeSMALLbcCAPITAL LETTER KAbeSMALL
  bCAPITAL LETTER KA WITH VERTICAL STROKEbfSMALLbbCAPITAL LETTER KA WITHbeSMALL
  bCAPITAL LETTER BASHKIR KAbdSMALLbCAPITAL LETTER EN WITH DESCENDERbeSMALLbCAPITAL LIGATURE EN GHE
  bdSMALLbCAPITAL LETTER PE WITH MIDDLE HOOKbfSMALLbCAPITAL LETTER ABKHASIAN HAbdSMALL
  bCAPITAL LETTER ES WITH DESCENDERbeSMALLbcCAPITAL LETTER TEbeSMALLbCAPITAL LETTER STRAIGHT U
  bdSMALLbCAPITAL LETTER STRAIGHT U WITH STROKEbfSMALLbCAPITAL LETTER HA WITH DESCENDERbeSMALL
  bCAPITAL LIGATURE TE TSEbdSMALLbCAPITAL LETTER CHE WITH DESCENDERbeSMALL
  bCAPITAL LETTER CHE WITH VERTICAL STROKEbfSMALLbCAPITAL LETTER SHHAbcSMALL
  bCAPITAL LETTER ABKHASIAN CHEbdSMALLbCAPITAL LETTER ABKHASIAN CHE WITH DESCENDERbfSMALL
  bLETTER PALOCHKAbCAPITAL LETTER ZHE WITH BREVEbeSMALLbCAPITAL LETTER KA WITH HOOKbeSMALL
  bCAPITAL LETTER EL WITH TAILbeSMALLbCAPITAL LETTER EN WITH HOOKbeSMALLbCAPITAL LETTER EN WITH TAIL
  beSMALLbCAPITAL LETTER KHAKASSIAN CHEbdSMALLbCAPITAL LETTER EM WITH TAILbeSMALLdPALOCHKA
  bCAPITAL LETTER A WITH BREVEbeSMALLbCAPITAL LETTER A WITH DIAERESISbeSMALLbCAPITAL LIGATURE A IE
  bdSMALLbCAPITAL LETTER IE WITH BREVEbeSMALLbCAPITAL LETTER SCHWAbcSMALL
  bCAPITAL LETTER SCHWA WITH DIAERESISbeSMALLbcCAPITAL LETTER ZHEbeSMALLbcCAPITAL LETTER ZEbeSMALL
  bCAPITAL LETTER ABKHASIAN DZEbdSMALLbCAPITAL LETTER I WITH MACRONbeSMALL
  bCAPITAL LETTER I WITH DIAERESISbeSMALLbcCAPITAL LETTER ObeSMALLbCAPITAL LETTER BARRED ObdSMALL
  bCAPITAL LETTER BARRED O WITH DIAERESISbfSMALLbcCAPITAL LETTER EbeSMALL
  bCAPITAL LETTER U WITH MACRONbeSMALLbCAPITAL LETTER U WITH DIAERESISbeSMALL
  bCAPITAL LETTER U WITH DOUBLE ACUTEbfSMALLbCAPITAL LETTER CHE WITH DIAERESISbeSMALL
  bCAPITAL LETTER GHE WITH DESCENDERbeSMALLbCAPITAL LETTER YERU WITH DIAERESISbeSMALL
  bCAPITAL LETTER GHE WITH STROKE AND HOOKbgSMALLbbCAPITAL LETTER HA WITHbeSMALL
  bCAPITAL LETTER HA WITH STROKEbeSMALLbCAPITAL LETTER KOMI DEbdSMALLbCAPITAL LETTER KOMI DJEbdSMALL
  bCAPITAL LETTER KOMI ZJEbdSMALLbCAPITAL LETTER KOMI DZJEbdSMALLbCAPITAL LETTER KOMI LJEbdSMALL
  bCAPITAL LETTER KOMI NJEbdSMALLbCAPITAL LETTER KOMI SJEbdSMALLbCAPITAL LETTER KOMI TJEbdSMALL
  bCAPITAL LETTER REVERSED ZEbdSMALLbCAPITAL LETTER EL WITH HOOKbeSMALLbCAPITAL LETTER LHAbcSMALL
  bCAPITAL LETTER RHAbcSMALLbCAPITAL LETTER YAEbcSMALLbCAPITAL LETTER QAbcSMALLbCAPITAL LETTER WE
  bcSMALLbCAPITAL LETTER ALEUT KAbdSMALLbCAPITAL LETTER EL WITH MIDDLE HOOKbfSMALL
  bdCAPITAL LETTER ENbfSMALLbCAPITAL LETTER PE WITH DESCENDERbeSMALLbcCAPITAL LETTER SHHAbeSMALL
  bCAPITAL LETTER EN WITH LEFT HOOKbfSMALLbCAPITAL LETTER DZZHEbcSMALLbCAPITAL LETTER DCHEbcSMALL
  bCAPITAL LETTER EL WITH DESCENDERbeSMALL+531aARMENIAN CAPITAL LETTER AYBdBENdGIMdDAdECHdZAdEHdET
  dTOdZHEdINIdLIWNdXEHdCAdKENdHOdJAdGHADdCHEHdMENdYIdNOWdSHAdVOdCHAdPEHdJHEHdRAdSEHdVEWdTIWNdREHdCO
  dYIWNdPIWRdKEHdOHdFEH+559bMODIFIER LETTER LEFT HALF RINGbAPOSTROPHEbEMPHASIS MARKbbEXCLAMATION
  bCOMMAbQUESTION MARKbbABBREVIATIONbSMALL LETTER TURNED AYBdb+562dBENdGIMdDAdECHdZAdEHdETdTOdZHE
  dINIdLIWNdXEHdCAdKENdHOdJAdGHADdCHEHdMENdYIdNOWdSHAdVOdCHAdPEHdJHEHdRAdSEHdVEWdTIWNdREHdCOdYIWN
  dPIWRdKEHdOHdFEHcLIGATURE ECH YIWNcLETTER YI WITH STROKEbFULL STOPbHYPHEN
  +58DaRIGHT-FACING ARMENIAN ETERNITY SIGNadLEFT-FACINGabARMENIAN DRAM+591aHEBREW ACCENT ETNAHTA
  cSEGOLcSHALSHELETcZAQEF QATANdGADOLcTIPEHAcREVIAcZARQAcPASHTAcYETIVcTEVIRcGERESHdMUQDAMcGERSHAYIM
  cQARNEY PARAcTELISHA GEDOLAcPAZERcATNAH HAFUKHcMUNAHcMAHAPAKHcMERKHAdKEFULAcDARGAcQADMA
  cTELISHA QETANAcYERAH BEN YOMOcOLEcILUYcDEHIcZINORbMARK MASORA CIRCLEbPOINT SHEVAcHATAF SEGOL
  dPATAHdQAMATScHIRIQcTSEREcSEGOLcPATAHcQAMATScHOLAMdHASER FOR VAVcQUBUTScDAGESH OR MAPIQcMETEG
  bPUNCTUATION MAQAFbPOINT RAFEbPUNCTUATION PASEQbPOINT SHIN DOTcbSINbPUNCTUATION SOF PASUQ
  bMARK UPPER DOTcbLOWERbPUNCTUATION NUN HAFUKHAbPOINT QAMATS QATAN+5D0bLETTER ALEFcBETcGIMELcDALET
  cHEcVAVcZAYINcHETcTETcYODcFINAL KAFcb+5DCcLAMEDcFINAL MEMcb+5DFcFINAL NUNcb+5E1cSAMEKHcAYIN
  cFINAL PEcb+5E5cFINAL TSADIcb+5E7cQOFcRESHcSHINcTAV+5EFbYOD TRIANGLEbLIGATURE YIDDISH DOUBLE VAV
  dVAV YODdbDOUBLEbPUNCTUATION GERESHcGERSHAYIM+600aARABIC NUMBER SIGNbSIGN SANAHbFOOTNOTE MARKER
  bSIGN SAFHAcSAMVATbNUMBER MARK ABOVEaARABIC-INDIC CUBE ROOTbbFOURTHaARABIC RAY
  aARABIC-INDIC PER MILLE SIGNcbTEN THOUSANDabAFGHANIaARABIC COMMAbDATE SEPARATORbPOETIC VERSE SIGN
  bSIGN MISRAcSALLALLAHOU ALAYHE WASSALLAMcALAYHE ASSALLAMcRAHMATULLAH ALAYHEcRADI ALLAHOU ANHU
  cTAKHALLUSbSMALL HIGH TAHdLIGATURE ALEF WITH LAM WITH YEHdZAINcFATHAcDAMMAcKASRAbSEMICOLON
  bLETTER MARKbbEND OF TEXTbbTRIPLE DOT PUNCTUATIONbbQUESTIONbLETTER KASHMIRI YEHcHAMZA
  cALEF WITH MADDA ABOVEebHAMZAcdWAWcALEF WITH HAMZA BELOWcYEH WITH HAMZA ABOVEcALEFcBEHcTEH MARBUTA
  d+62BcTHEHcJEEMcHAHcKHAHcDALcTHALcREHcZAINcSEENcSHEENcSADcDADcTAHcZAHcAINcGHAIN
  cKEHEH WITH TWO DOTS ABOVEeTHREE DOTS BELOWcFARSI YEH WITH INVERTED VfTWO DOTS ABOVEfcTHREE
  bTATWEELbLETTER FEHcQAFcKAFcLAMcMEEMcNOONcHEHcWAWcALEF MAKSURAcYEHbFATHATANbDAMMATANbKASRATAN
  bFATHAbDAMMAbKASRAbSHADDAbSUKUNbMADDAH ABOVEbbHAMZAcBELOWbSUBSCRIPT ALEFbINVERTED DAMMA
  bMARK NOON GHUNNAbZWARAKAYbVOWEL SIGN SMALL V ABOVEddINVERTEDdDOT BELOWbREVERSED DAMMA
  bFATHA WITH TWO DOTSbWAVY HAMZA BELOWaARABIC-INDIC DIGIT ZEROcONEcTWOcTHREEcFOURcFIVEcSIXcSEVEN
  cEIGHTcNINEaARABIC PERCENT SIGNbDECIMAL SEPARATORbbTHOUSANDSbFIVE POINTED STARbLETTER DOTLESS BEH
  dQAFcSUPERSCRIPT ALEFcALEF WASLAdWITH WAVY HAMZA ABOVEgBELOWcHIGH HAMZAeALEFeWAW
  cU WITH HAMZA ABOVEcHIGH HAMZA YEHcTTEHcTTEHEHcBEEHcTEH WITH RINGeTHREE DOTS ABOVE DOWNWARDScPEH
  cTEHEHcBEHEHcHAH WITH HAMZA ABOVEebTWO DOTS VERTICALcNYEHcDYEHcHAH WITH THREE DOTS ABOVEcTCHEH
  cTCHEHEHcDDALcDAL WITH RINGeDOT BELOWgAND SMALL TAHcDAHALcDDAHALcDUL
  cDAL WITH THREE DOTS ABOVE DOWNWARDSeFOUR DOTS ABOVEcRREHcREH WITH SMALL VeRINGeDOT BELOWebSMALL V
  eDOT BELOW AND DOT ABOVEebTWO DOTScJEHcREH WITH FOUR DOTS ABOVEcbSEEN WITH DOT BELOW AND DOT
  eTHREE DOTS BELOWhAND THREE DOTS ABOVEcSAD WITH TWO DOTS BELOWeTHREE DOTS ABOVEceTAHceAIN
  cDOTLESS FEHcFEH WITH DOT MOVED BELOWfb+6A4cVEHcFEH WITH THREE DOTS BELOWcPEHEHcQAF WITH DOT ABOVE
  ebTHREE DOTScKEHEHcSWASH KAFcKAF WITH RINGeDOT ABOVEcNGcKAF WITH THREE DOTS BELOWcGAFdWITH RING
  cNGOEHcGAF WITH TWO DOTS BELOWcGUEHcGAF WITH THREE DOTS ABOVEcLAM WITH SMALL VeDOT ABOVE
  ebTHREE DOTSgBELOWcbNOON WITH DOTdGHUNNAcRNOONcNOON WITH RINGeTHREE DOTS ABOVEcHEH DOACHASHMEE
  cTCHEH WITH DOT ABOVEcbHEH WITH YEHdGOALeWITH HAMZA ABOVEcTEH MARBUTA GOALcWAW WITH RING
  cKIRGHIZ OEcb+6C7cUcYUcbKIRGHIZcWAW WITH TWO DOTS ABOVEcVEcFARSI YEHcYEH WITH TAILeSMALL V
  cWAW WITH DOT ABOVEcEcYEH WITH THREE DOTS BELOWdBARREEeWITH HAMZA ABOVEbFULL STOPbLETTER AE
  bSMALL HIGH LIGATURE SAD WITH LAM WITH ALEF MAKSURAefQAFdMEEM INITIAL FORMdLAM ALEFdJEEM
  dTHREE DOTSdSEENbEND OF AYAHbSTART OF RUB EL HIZBbSMALL HIGH ROUNDED ZEROdbUPRIGHT RECTANGULAR
  dDOTLESS HEAD OF KHAHdMEEM ISOLATED FORMcLOW SEENcHIGH MADDAcWAWcYEHcbHIGHdNOONbPLACE OF SAJDAH
  bEMPTY CENTRE LOW STOPdbHIGHbROUNDED HIGH STOP WITH FILLED CENTREbSMALL LOW MEEM
  bLETTER DAL WITH INVERTED VcdREHaEXTENDED ARABIC-INDIC DIGIT ZEROdONEdTWOdTHREEdFOURdFIVEdSIX
  dSEVENdEIGHTdNINEaARABIC LETTER SHEEN WITH DOT BELOWcdDADcdGHAINbSIGN SINDHI AMPERSAND
  dPOSTPOSITION MENbLETTER HEH WITH INVERTED VaSYRIAC END OF PARAGRAPHbSUPRALINEAR FULL STOP
  bcSUBLINEARbSUPRALINEAR COLONbbSUBLINEARbbHORIZONTALbCOLON SKEWED LEFTdRIGHT
  bSUPRALINEAR COLON SKEWED LEFTbSUBLINEAR COLON SKEWED RIGHTbCONTRACTIONbHARKLEAN OBELUScMETOBELUS
  cASTERISCUS+70FbABBREVIATION MARKbLETTER ALAPHcbSUPERSCRIPTcBETHcGAMALdGARSHUNIcDALATH
  cDOTLESS DALATH RISHcHEcWAWcZAINcHETHcTETHdGARSHUNIcYUDHdHEcKAPHcLAMADHcMIMcNUNcSEMKATHcbFINALcE
  cPEcbREVERSEDcSADHEcQAPHcRISHcSHINcTAWcPERSIAN BHETHdGHAMALdDHALATHbPTHAHA ABOVEcBELOWcDOTTED
  bZQAPHA ABOVEcBELOWcDOTTEDbRBASA ABOVEcBELOWbDOTTED ZLAMA HORIZONTALdANGULARbHBASA ABOVEcBELOW
  bHBASA-ESASA DOTTEDbESASA ABOVEcBELOWbRWAHAbFEMININE DOTbQUSHSHAYAbRUKKAKHA
  bTWO VERTICAL DOTS ABOVEeBELOWbTHREE DOTS ABOVEdBELOWbOBLIQUE LINE ABOVEdBELOWbMUSICbBARREKH
  +74DbLETTER SOGDIAN ZHAINdKHAPHdFEaARABIC LETTER BEH WITH THREE DOTS HORIZONTALLY BELOW
  eDOT BELOW AND THREE DOTS ABOVEeTHREE DOTS POINTING UPWARDS BELOWjAND TWO DOTS ABOVE
  ebTWO DOTS BELOW AND DOTeINVERTED SMALL V BELOWeSMALL VcHAH WITH TWO DOTS ABOVE
  eTHREE DOTS POINTING UPWARDS BELOWcDAL WITH TWO DOTS VERTICALLY BELOW AND SMALL TAH
  eINVERTED SMALL V BELOWcREH WITH STROKEcSEEN WITH FOUR DOTS ABOVEccAIN WITH TWO
  ebTHREE DOTS POINTING DOWNWARDSebTWO DOTS VERTICALLYcFEH WITH TWO DOTS BELOW
  ebTHREE DOTS POINTING UPWARDScKEHEH WITH DOT ABOVEebTHREE DOTSgPOINTING UPWARDS BELOW
  cMEEM WITH DOT ABOVEfBELOWcbNOON WITH TWO DOTSeSMALL TAHfVcLAM WITH BAR
  cREH WITH TWO DOTS VERTICALLY ABOVEebHAMZAcbSEEN WITH TWO DOTS VERTICALLY
  cHAH WITH SMALL ARABIC LETTER TAH BELOWiAND TWO DOTSciSEENciREH
  cHAH WITH SMALL ARABIC LETTER TAH ABOVEcbALEF WITH EXTENDED ARABIC-INDIC DIGIT TWOhbTHREE
  cbFARSI YEH WITH EXTENDED ARABIC-INDIC DIGIT TWOibTHREEiFOUR BELOW
  cWAW WITH EXTENDED ARABIC-INDIC DIGIT TWO ABOVEhbTHREE
  cbYEH BARREE WITH EXTENDED ARABIC-INDIC DIGIT TWOibTHREE
  cHAH WITH EXTENDED ARABIC-INDIC DIGIT FOUR BELOWcSEEN WITH EXTENDED ARABIC-INDIC DIGIT FOUR ABOVE
  eINVERTED VcKAF WITH TWO DOTS ABOVEaTHAANA LETTER HAAcSHAVIYANIcNOONUcRAAcBAAcLHAVIYANIcKAAFU
  cALIFUcVAAVUcMEEMUcFAAFUcDHAALUcTHAAcLAAMUcGAAFUcGNAVIYANIcSEENUcDAVIYANIcZAVIYANIcTAVIYANIcYAA
  cPAVIYANIcJAVIYANIcCHAVIYANIcTTAAcHHAAcKHAAcTHAALUcZAAcSHEENUcSAADHUcDAADHUcTOcZOcAINUcGHAINU
  cQAAFUcWAAVUbABAFILIbAABAAFILIbIBIFILIbEEBEEFILIbUBUFILIbOOBOOFILIbEBEFILIbEYBEYFILIbOBOFILI
  bOABOAFILIbSUKUNbLETTER NAA+7C0aNKO DIGIT ZEROcONEcTWOcTHREEcFOURcFIVEcSIXcSEVENcEIGHTcNINE
  bLETTER AcEEcIcEcUcOOcOcDAGBASINNAcNcBAcPAcTAcJAcCHAcDAcRAcRRAcSAcGBAcFAcKAcLAcNA WOLOSOcMAcNYAcNA
  cHAcWAcYAcNYA WOLOSOcJONA JAdCHAdRAbCOMBINING SHORT HIGH TONEdbLOWdbRISINGcbLONG DESCENDINGdbHIGH
  dbLOWdbRISINGcNASALIZATION MARKcDOUBLE DOT ABOVEbHIGH TONE APOSTROPHEbcLOWbSYMBOL OO DENNEN
  cGBAKURUNENbCOMMAbEXCLAMATION MARKbLAJANYALAN+7FDbDANTAYALANbDOROME SIGNbbTAMAN
  aSAMARITAN LETTER ALAFcBITcGAMANcDALATcIYcBAAcZENcITcTITcYUTcKAAFcLABATcMIMcNUNcSINGAATcINcFI
  cTSAADIYcQUFcRISHcSHANcTAAFbMARK INcIN-ALAFcOCCLUSIONcDAGESHbMODIFIER LETTER EPENTHETIC YUTbcMARK
  bVOWEL SIGN LONG Edb+81EdOVERLONG AAdbLONGdb+821dOVERLONG AdbLONGdb+824bbMODIFIER LETTER SHORT
  bcVOWEL SIGNdLONG Udb+828bMODIFIER LETTER IbbVOWEL SIGN LONGdb+82BdOdSUKUNbMARK NEQUDAA
  +830bbPUNCTUATIONcAFSAAQcANGEDcBAUcATMAAUcSHIYYAALAAbABBREVIATION MARKbPUNCTUATION MELODIC QITSA
  cZIQAAcQITSAcZAEFcTURUcARKAANUcSOF MASHFAATcANNAAU+840aMANDAIC LETTER HALQAcABcAGcADcAHcUSHENNAcAZ
  cITcATTcAKSAcAKcALcAMcANcAScINcAPcASZcAQcARcASHcATcDUSHENNAcKADcAINbAFFRICATION MARKbbVOCALIZATION
  bbGEMINATION+85EbPUNCTUATION+860aSYRIAC LETTER MALAYALAM NGAdJAdNYAdTTAdNNAdNNNAdBHAdRAdLLAdLLLA
  dSSA+870aARABIC LETTER ALEF WITH ATTACHED FATHAfbTOP RIGHTeRIGHT MIDDLE STROKEecLEFT
  eATTACHED KASRAfbBOTTOM RIGHTfROUND DOT ABOVEfRIGHT ROUND DOTfcLEFTfROUND DOT BELOWeDOT ABOVE
  ecATTACHED TOP RIGHT FATHA ANDedRIGHT MIDDLE STROKEedATTACHED BOTTOM RIGHT KASRA
  fTOP RIGHT FATHA AND LEFT RINGedRIGHT MIDDLE STROKEedATTACHED BOTTOM RIGHT KASRAfRIGHT HAMZAfbLEFT
  bbTATWEEL WITH OVERSTRUCKeWAWdTWO DOTS BELOWbLETTER THIN YEHbBASELINE ROUND DOTbcRAISED
  bLETTER NOON WITH INVERTED SMALL VcHAH WITH INVERTED SMALL V BELOWcbTAH WITH DOTebTHREE DOTS
  cbKEHEH WITH TWO DOTS VERTICALLYbVERTICAL TAIL+890bPOUND MARK ABOVEbcPIASTRE
  +898bSMALL HIGH WORD AL-JUZcLOW WORD ISHMAAMeIMAALAeTASHEELbMADDA WAAJIB
  bSUPERSCRIPT ALEF MOKHASSASbDOUBLED MADDAbbHALF MADDA OVERbLETTER BEH WITH SMALL V BELOW
  eHAMZA ABOVEcbJEEM WITH TWO DOTSceTAHccFEH WITH DOT BELOW AND THREEcQAF WITH DOT BELOW
  cLAM WITH DOUBLE BARcMEEM WITH THREE DOTS ABOVEcbYEH WITH TWO DOTS BELOW AND HAMZAibDOT
  cREH WITH LOOPcWAW WITH DOT WITHINcROHINGYA YEHcLOW ALEFcDAL WITH THREE DOTS BELOWceSAD
  cGAF WITH INVERTED STROKEcSTRAIGHT WAWcZAIN WITH INVERTED V ABOVEcAIN WITH THREE DOTS BELOW
  cbKAF WITH DOTcQAF WITH DOT BELOW AND NO DOTS ABOVEcbBEH WITH SMALL MEEMcePEHcbTEH WITH SMALL TEH
  cbREH WITH SMALL NOONcdYEH WITH TWO DOTS BELOW ANDcAFRICAN FEHdQAFdNOONcPEH WITH SMALL VcdTEH
  cdTTEHcdTCHEHcdKEHEHcGHAIN WITH THREE DOTS ABOVEceAFRICAN QAFceJEEMgBELOW
  cLAM WITH SMALL ARABIC LETTER TAH ABOVEcGRAFbSMALL FARSI YEHccHIGHdYEH BARREE WITH TWO DOTS BELOW
  dWORD SAHdZAHbLARGE ROUND DOT ABOVEeBELOWbbSUKUNbbLARGE CIRCLEccROUND DOT INSIDEbSMALL LOW WAW
  cHIGH WORD AR-RUBdSADdAINdQAFdNOON WITH KASRAcdLOWcHIGH WORD ATH-THALATHAeAS-SAJDAeAN-NISFeSAKTA
  eQIFeWAQFAdFOOTNOTE MARKERdSIGN SAFHAbDISPUTED END OF AYAHbTURNED DAMMA BELOWbCURLY FATHAcDAMMA
  cKASRAcFATHATANcDAMMATANcKASRATANbTONE ONE DOT ABOVEcbTWO DOTScbLOOPcONE DOT BELOWcbTWO DOTScbLOOP
  bOPEN FATHATANcDAMMATANcKASRATANbSMALL HIGH WAWbFATHA WITH RINGdDOT ABOVEbKASRA WITH DOT BELOW
  bLEFT ARROWHEAD ABOVEbcRIGHTbLEFT ARROWHEAD BELOWbcRIGHTbDOUBLE RIGHT ARROWHEAD ABOVEfWITH DOTbf
  +8FEbcDAMMAbMARK SIDEWAYS NOON GHUNNAaDEVANAGARI SIGN INVERTED CANDRABINDUcb+902cANUSVARAcVISARGA
  bLETTER SHORT Acb+906cAAcIcIIcUcUUcVOCALIC RdLcCANDRA EcbSHORTcb+910cAIcCANDRA OcbSHORTcb+914cAU
  cKAcKHAcGAcGHAcNGAcCAcCHAcJAcJHAcNYAcTTAcTTHAcDDAcDDHAcNNAcTAcTHAcDAcDHAcNAcNNNAcPAcPHAcBAcBHAcMA
  cYAcRAcRRAcLAcLLAcLLLAcVAcSHAcSSAcSAcHAbVOWEL SIGN OEdOOEbSIGN NUKTAcAVAGRAHAbVOWEL SIGN AAdIdIIdU
  dUUdVOCALIC ReRRdCANDRA EdbSHORTdb+948dAIdCANDRA OdbSHORTdb+94CdAUbSIGN VIRAMA
  bVOWEL SIGN PRISHTHAMATRA EdAWbOMbSTRESS SIGN UDATTAdANUDATTAbGRAVE ACCENTbbACUTE
  bVOWEL SIGN CANDRA LONG EdUEdUUEbLETTER QAcKHHAcGHHAcZAcDDDHAcRHAcFAcYYAcVOCALIC RRdLL
  bVOWEL SIGN VOCALIC LeLLbDANDAbbDOUBLEbDIGIT ZEROcONEcTWOcTHREEcFOURcFIVEcSIXcSEVENcEIGHTcNINE
  bABBREVIATION SIGNbSIGN HIGH SPACING DOTbLETTER CANDRA AcOEcOOEcAWcUEcUUEcMARWARI DDAcZHAcHEAVY YA
  cGGAcJJAcGLOTTAL STOPcDDDAcBBAaBENGALI ANJIbSIGN CANDRABINDUcANUSVARAcVISARGA+985bLETTER AcAAcIcII
  cUcUUcVOCALIC RdL+98FcEcAI+993cOcAUcKAcKHAcGAcGHAcNGAcCAcCHAcJAcJHAcNYAcTTAcTTHAcDDAcDDHAcNNAcTA
  cTHAcDAcDHAcNA+9AAcPAcPHAcBAcBHAcMAcYAcRA+9B2cLA+9B6cSHAcSSAcSAcHA+9BCbSIGN NUKTAcAVAGRAHA
  bVOWEL SIGN AAdIdIIdUdUUdVOCALIC ReRR+9C7dEdAI+9CBdOdAUbSIGN VIRAMAbLETTER KHANDA TA
  +9D7bAU LENGTH MARK+9DCbLETTER RRAcRHA+9DFcYYAcVOCALIC RRdLLbVOWEL SIGN VOCALIC LeLL
  +9E6bDIGIT ZEROcONEcTWOcTHREEcFOURcFIVEcSIXcSEVENcEIGHTcNINEbLETTER RA WITH MIDDLE DIAGONALebLOWER
  bRUPEE MARKcSIGNbCURRENCY NUMERATOR ONEdTWOdTHREEdFOURdONE LESS THAN THE DENOMINATOR
  cDENOMINATOR SIXTEENbISSHARbGANDA MARKbLETTER VEDIC ANUSVARAbABBREVIATION SIGNbSANDHI MARK
  +A01aGURMUKHI SIGN ADAK BINDIcb+A03cVISARGA+A05bLETTER AcAAcIcIIcUcUU+A0FcEEcAI+A13cOOcAUcKAcKHA
  cGAcGHAcNGAcCAcCHAcJAcJHAcNYAcTTAcTTHAcDDAcDDHAcNNAcTAcTHAcDAcDHAcNA+A2AcPAcPHAcBAcBHAcMAcYAcRA
  +A32cLAcLLA+A35cVAcSHA+A38cSAcHA+A3CbSIGN NUKTA+A3EbVOWEL SIGN AAdIdIIdUdUU+A47dEEdAI+A4BdOOdAU
  bSIGN VIRAMA+A51cUDAAT+A59bLETTER KHHAcGHHAcZAcRRA+A5EcFA+A66bDIGIT ZEROcONEcTWOcTHREEcFOURcFIVE
  cSIXcSEVENcEIGHTcNINEbTIPPIbADDAKbIRIbURAbEK ONKARbSIGN YAKASHbABBREVIATION SIGN
  +A81aGUJARATI SIGN CANDRABINDUcANUSVARAcVISARGA+A85bLETTER AcAAcIcIIcUcUUcVOCALIC RdL
  bVOWEL CANDRA E+A8FbbLETTERcAIbVOWEL CANDRA O+A93bbLETTERcAUcKAcKHAcGAcGHAcNGAcCAcCHAcJAcJHAcNYA
  cTTAcTTHAcDDAcDDHAcNNAcTAcTHAcDAcDHAcNA+AAAcPAcPHAcBAcBHAcMAcYAcRA+AB2cLAcLLA+AB5cVAcSHAcSSAcSAcHA
  +ABCbSIGN NUKTAcAVAGRAHAbVOWEL SIGN AAdIdIIdUdUUdVOCALIC ReRRdCANDRA E+AC7db+AC8dAIdCANDRA O+ACBdb
  +ACCdAUbSIGN VIRAMA+AD0bOM+AE0bLETTER VOCALIC RRdLLbVOWEL SIGN VOCALIC LeLL+AE6bDIGIT ZEROcONEcTWO
  cTHREEcFOURcFIVEcSIXcSEVENcEIGHTcNINEbABBREVIATION SIGNbbRUPEE+AF9bLETTER ZHAbSIGN SUKUNcSHADDA
  cMADDAHcTHREE-DOT NUKTA ABOVEccCIRCLEccTWO-CIRCLE+B01aORIYA SIGN CANDRABINDUcANUSVARAcVISARGA
  +B05bLETTER AcAAcIcIIcUcUUcVOCALIC RdL+B0FcEcAI+B13cOcAUcKAcKHAcGAcGHAcNGAcCAcCHAcJAcJHAcNYAcTTA
  cTTHAcDDAcDDHAcNNAcTAcTHAcDAcDHAcNA+B2AcPAcPHAcBAcBHAcMAcYAcRA+B32cLAcLLA+B35cVAcSHAcSSAcSAcHA
  +B3CbSIGN NUKTAcAVAGRAHAbVOWEL SIGN AAdIdIIdUdUUdVOCALIC ReRR+B47dEdAI+B4BdOdAUbSIGN VIRAMA
  +B55cOVERLINEbAI LENGTH MARKbcAU+B5CbLETTER RRAcRHA+B5FcYYAcVOCALIC RRdLLbVOWEL SIGN VOCALIC LeLL
  +B66bDIGIT ZEROcONEcTWOcTHREEcFOURcFIVEcSIXcSEVENcEIGHTcNINEbISSHARbLETTER WAbFRACTION ONE QUARTER
  dHALFcTHREE QUARTERScONE SIXTEENTHdEIGHTHcTHREE SIXTEENTHS+B82aTAMIL SIGN ANUSVARAcVISARGA
  +B85bLETTER AcAAcIcIIcUcUU+B8EcEcEEcAI+B92cOcOOcAUcKA+B99cNGAcCA+B9CcJA+B9EcNYAcTTA+BA3cNNAcTA
  +BA8cNAcNNNAcPA+BAEcMAcYAcRAcRRAcLAcLLAcLLLAcVAcSHAcSSAcSAcHA+BBEbVOWEL SIGN AAdIdIIdUdUU+BC6dEdEE
  dAI+BCAdOdOOdAUbSIGN VIRAMA+BD0bOM+BD7bAU LENGTH MARK+BE6bDIGIT ZEROcONEcTWOcTHREEcFOURcFIVEcSIX
  cSEVENcEIGHTcNINEbNUMBER TENcONE HUNDREDdTHOUSANDbDAY SIGNbbMONTHbbYEARbbDEBITbbCREDITbbAS ABOVE
  bbRUPEEbbNUMBER+C00aTELUGU SIGN COMBINING CANDRABINDU ABOVEcCANDRABINDUcANUSVARAcVISARGA
  cCOMBINING ANUSVARA ABOVEbLETTER AcAAcIcIIcUcUUcVOCALIC RdL+C0EcEcEEcAI+C12cOcOOcAUcKAcKHAcGAcGHA
  cNGAcCAcCHAcJAcJHAcNYAcTTAcTTHAcDDAcDDHAcNNAcTAcTHAcDAcDHAcNA+C2AcPAcPHAcBAcBHAcMAcYAcRAcRRAcLA
  cLLAcLLLAcVAcSHAcSSAcSAcHA+C3CbSIGN NUKTAcAVAGRAHAbVOWEL SIGN AAdIdIIdUdUUdVOCALIC ReRR+C46dEdEE
  dAI+C4AdOdOOdAUbSIGN VIRAMA+C55bLENGTH MARKbcAI+C58bLETTER TSAcDZAcRRRA+C5DcNAKAARA POLLU
  +C60cVOCALIC RRdLLbVOWEL SIGN VOCALIC LeLL+C66bDIGIT ZEROcONEcTWOcTHREEcFOURcFIVEcSIXcSEVENcEIGHT
  cNINE+C77bSIGN SIDDHAMbFRACTION DIGIT ZERO FOR ODD POWERS OF FOURdfONEdfTWOdfTHREEddONE FOR EVEN
  dfTWOdfTHREEbSIGN TUUMUaKANNADA SIGN SPACING CANDRABINDUcb+C82cANUSVARAcVISARGAcSIDDHAMbLETTER A
  cAAcIcIIcUcUUcVOCALIC RdL+C8EcEcEEcAI+C92cOcOOcAUcKAcKHAcGAcGHAcNGAcCAcCHAcJAcJHAcNYAcTTAcTTHAcDDA
  cDDHAcNNAcTAcTHAcDAcDHAcNA+CAAcPAcPHAcBAcBHAcMAcYAcRAcRRAcLAcLLA+CB5cVAcSHAcSSAcSAcHA
  +CBCbSIGN NUKTAcAVAGRAHAbVOWEL SIGN AAdIdIIdUdUUdVOCALIC ReRR+CC6dEdEEdAI+CCAdOdOOdAUbSIGN VIRAMA
  +CD5bLENGTH MARKbcAI+CDDbLETTER NAKAARA POLLUcFA+CE0cVOCALIC RRdLLbVOWEL SIGN VOCALIC LeLL
  +CE6bDIGIT ZEROcONEcTWOcTHREEcFOURcFIVEcSIXcSEVENcEIGHTcNINE+CF1bSIGN JIHVAMULIYAcUPADHMANIYA
  +D00aMALAYALAM SIGN COMBINING ANUSVARA ABOVEcCANDRABINDUcANUSVARAcVISARGAbLETTER VEDIC ANUSVARAcA
  cAAcIcIIcUcUUcVOCALIC RdL+D0EcEcEEcAI+D12cOcOOcAUcKAcKHAcGAcGHAcNGAcCAcCHAcJAcJHAcNYAcTTAcTTHAcDDA
  cDDHAcNNAcTAcTHAcDAcDHAcNAcNNNAcPAcPHAcBAcBHAcMAcYAcRAcRRAcLAcLLAcLLLAcVAcSHAcSSAcSAcHAcTTTA
  bSIGN VERTICAL BAR VIRAMAcbCIRCULARcAVAGRAHAbVOWEL SIGN AAdIdIIdUdUUdVOCALIC ReRR+D46dEdEEdAI
  +D4AdOdOOdAUbSIGN VIRAMAbLETTER DOT REPHbSIGN PARA+D54bLETTER CHILLU MdYdLLLbAU LENGTH MARK
  bFRACTION ONE ONE-HUNDRED-AND-SIXTIETHdFORTIETHcTHREE EIGHTIETHScONE TWENTIETHdTENTH
  cTHREE TWENTIETHScONE FIFTHbLETTER ARCHAIC IIcVOCALIC RRdLLbVOWEL SIGN VOCALIC LeLL+D66bDIGIT ZERO
  cONEcTWOcTHREEcFOURcFIVEcSIXcSEVENcEIGHTcNINEbNUMBER TENcONE HUNDREDdTHOUSANDbFRACTION ONE QUARTER
  dHALFcTHREE QUARTERScONE SIXTEENTHdEIGHTHcTHREE SIXTEENTHSbDATE MARKbLETTER CHILLU NNdNdRRdLdLLdK
  +D81aSINHALA SIGN CANDRABINDUcANUSVARAYAcVISARGAYA+D85bLETTER AYANNAcAAYANNAcAEYANNAcAEEYANNA
  cIYANNAcIIYANNAcUYANNAcUUYANNAcIRUYANNAcIRUUYANNAcILUYANNAcILUUYANNAcEYANNAcEEYANNAcAIYANNAcOYANNA
  cOOYANNAcAUYANNA+D9AcALPAPRAANA KAYANNAcbMAHAAPRAANAcALPAPRAANA GAYANNAcbMAHAAPRAANA
  cKANTAJA NAASIKYAYAcSANYAKA GAYANNAcALPAPRAANA CAYANNAcbMAHAAPRAANAcALPAPRAANA JAYANNA
  cbMAHAAPRAANAcTAALUJA NAASIKYAYAdSANYOOGA NAAKSIKYAYAcSANYAKA JAYANNAcALPAPRAANA TTAYANNA
  cbMAHAAPRAANAcALPAPRAANA DDAYANNAcbMAHAAPRAANAcMUURDHAJA NAYANNAcSANYAKA DDAYANNA
  cALPAPRAANA TAYANNAcbMAHAAPRAANAcALPAPRAANA DAYANNAcbMAHAAPRAANAcDANTAJA NAYANNA
  +DB3cSANYAKA DAYANNAcALPAPRAANA PAYANNAcbMAHAAPRAANAcALPAPRAANA BAYANNAcbMAHAAPRAANAcMAYANNA
  cAMBA BAYANNAcYAYANNAcRAYANNA+DBDcDANTAJA LAYANNA+DC0cVAYANNAcTAALUJA SAYANNAcbMUURDHAJAcbDANTAJA
  cHAYANNAcMUURDHAJA LAYANNAcFAYANNA+DCAbSIGN AL-LAKUNA+DCFbVOWEL SIGN AELA-PILLAdKETTI AEDA-PILLA
  dbDIGAdKETTI IS-PILLAdbDIGAdKETTI PAA-PILLA+DD6dbDIGA+DD8dGAETTA-PILLAdKOMBUVAdbDIGAdKOMBU DEKA
  dKOMBUVA HAA AELA-PILLAfbDIGAfGAYANUKITTAdb+DE6bLITH DIGIT ZEROdONEdTWOdTHREEdFOURdFIVEdSIXdSEVEN
  dEIGHTdNINE+DF2bVOWEL SIGN DIGA GAETTA-PILLAeGAYANUKITTAbPUNCTUATION KUNDDALIYA
  +E01aTHAI CHARACTER KO KAIcKHO KHAIdKHUATdKHWAIdKHONdRAKHANGcNGO NGUcCHO CHANdCHINGdCHANGcSO SO
  cCHO CHOEcYO YINGcDO CHADAcTO PATAKcTHO THANdNANGMONTHOdPHUTHAOcNO NENcDO DEKcTO TAOcTHO THUNG
  dTHAHANdTHONGcNO NUcBO BAIMAIcPO PLAcPHO PHUNGcFO FAcPHO PHANcFO FANcPHO SAMPHAOcMO MAcYO YAK
  cRO RUAcRUcLO LINGcLUcWO WAENcSO SALAdRUSIdSUAcHO HIPcLO CHULAcO ANGcHO NOKHUKcPAIYANNOIcSARA A
  cMAI HAN-AKATcSARA AAdAMdIdIIdUEdUEEdUdUUcPHINTHU+E3FbCURRENCY SYMBOL BAHTbCHARACTER SARA EdAEdO
  dAI MAIMUANeMAIMALAIcLAKKHANGYAOcMAIYAMOKcMAITAIKHUcMAI EKdTHOdTRIdCHATTAWAcTHANTHAKHATcNIKHAHIT
  cYAMAKKANcFONGMANbDIGIT ZEROcONEcTWOcTHREEcFOURcFIVEcSIXcSEVENcEIGHTcNINEbCHARACTER ANGKHANKHU
  cKHOMUT+E81aLAO LETTER KOcKHO SUNG+E84dTAM+E86cPALI GHAcNGOcCOcPALI CHAcSO TAM+E8CcPALI JHAcNYO
  cPALI NYAdTTAdTTHAdDDAdDDHAdNNAcDOcTOcTHO SUNGdTAMcPALI DHAcNOcBOcPOcPHO SUNGcFO TAMcbPHOcFO SUNG
  cPALI BHAcMOcYOcLO LING+EA5dLOOT+EA7cWOcSANSKRIT SHAdSSAcSO SUNGcbHOcPALI LLAcOcHO TAMbELLIPSIS
  bVOWEL SIGN AdMAI KANdAAdAMdIdIIdYdYYdUdUUbSIGN PALI VIRAMAbVOWEL SIGN MAI KONbSEMIVOWEL SIGN LO
  dNYO+EC0bVOWEL SIGN EdEIdOdAYdAI+EC6bKO LA+EC8bTONE MAI EKdTHOdTIdCATAWAbCANCELLATION MARK
  bNIGGAHITA+ED0bDIGIT ZEROcONEcTWOcTHREEcFOURcFIVEcSIXcSEVENcEIGHTcNINE+EDCbHO NOcMObLETTER KHMU GO
  dNYO+F00aTIBETAN SYLLABLE OMbMARK GTER YIG MGO TRUNCATED Af-UM RNAM BCAD MAgbGTER TSHEG
  cbINITIAL YIG MGO MDUNcbCLOSING YIG MGO SGABcbCARET YIG MGO PHUR SHADccYIG MGO TSHEGcSBRUL SHAD
  cBSKUR YIG MGOccBKA- SHOGcINTERSYLLABIC TSHEGcDELIMITER TSHEG BSTARcSHADcbNYIScbTSHEGccNYIS
  cbRIN CHEN SPUNGScbRGYA GRAMcCARET -DZUD RTAGS ME LONG CANcGTER TSHEGbLOGOTYPE SIGN CHAD RTAGS
  dbLHAGbbASTROLOGICAL SIGN SGRA GCAN -CHARd-KHYUD PAdSDONG TSHUGSbSIGN RDEL DKAR GCIGeGNYISeGSUM
  dNAG GCIGeGNYISdDKAR RDEL NAGbDIGIT ZEROcONEcTWOcTHREEcFOURcFIVEcSIXcSEVENcEIGHTcNINEcHALF ONEdTWO
  dTHREEdFOURdFIVEdSIXdSEVENdEIGHTdNINEdZERObMARK BSDUS RTAGScNGAS BZUNG NYI ZLA
  cCARET -DZUD RTAGS BZHI MIG CANcNGAS BZUNG SGOR RTAGScCHE MGOcTSA -PHRUcGUG RTAGS GYONeGYAS
  cANG KHANG GYONeGYASbSIGN YAR TSHEScbMARbLETTER KAcKHAcGAcGHAcNGAcCAcCHAcJA+F49cNYAcTTAcTTHAcDDA
  cDDHAcNNAcTAcTHAcDAcDHAcNAcPAcPHAcBAcBHAcMAcTSAcTSHAcDZAcDZHAcWAcZHAcZAc-AcYAcRAcLAcSHAcSSAcSAcHA
  cAcKSSAcFIXED-FORM RAcKKAcRRA+F71bVOWEL SIGN AAdIdIIdUdUUdVOCALIC ReRReLeLLdEdEEdOdOO
  bSIGN RJES SU NGA ROcRNAM BCADbVOWEL SIGN REVERSED IeIIbSIGN NYI ZLA NAA DAcSNA LDANbMARK HALANTA
  cPALUTAbSIGN LCI RTAGScbYANGcLCE TSA CANcbMCHUcGRU CAN RGYINGSdbMEDcINVERTED MCHU CAN
  bbSUBJOINED SIGN LCE TSAdbMCHUdcINVERTEDcLETTER KAdKHAdGAdGHAdNGAdCAdCHAdJA+F99dNYAdTTAdTTHAdDDA
  dDDHAdNNAdTAdTHAdDAdDHAdNAdPAdPHAdBAdBHAdMAdTSAdTSHAdDZAdDZHAdWAdZHAdZAd-AdYAdRAdLAdSHAdSSAdSAdHA
  dAdKSSAdFIXED-FORM WAeYAeRA+FBEbKU RU KHAeBZHI MIG CANbCANTILLATION SIGN HEAVY BEATdbLIGHT
  dCANG TE-UdSBUB -CHALbSYMBOL DRIL BUcRDO RJEcPADMA GDANcRDO RJE RGYA GRAMcPHUR PAcNOR BU
  eNYIS -KHYILebGSUMebBZHI+FCEbSIGN RDEL NAG RDEL DKAReGSUMbMARK BSKA- SHOG GI MGO RGYANcdMNYAM YIG
  cNYIS TSHEGcINITIAL BRDA RNYING YIG MGO MDUN MAcbCLOSING BRDA RNYING YIG MGO SGAB
  aRIGHT-FACING SVASTI SIGNacLEFT-FACINGaRIGHT-FACING SVASTI SIGN WITH DOTSaeLEFT-FACING
  aTIBETAN MARK LEADING MCHAN RTAGSccTRAILING+1000aMYANMAR LETTER KAcKHAcGAcGHAcNGAcCAcCHAcJAcJHA
  cNYAcNNYAcTTAcTTHAcDDAcDDHAcNNAcTAcTHAcDAcDHAcNAcPAcPHAcBAcBHAcMAcYAcRAcLAcWAcSAcHAcLLAcAcbSHANcI
  cIIcUcUUcEcbMONcOcAUbVOWEL SIGN TALL AAdb+102DdIdIIdUdUUdEdAIdMON IIeOdE ABOVEbSIGN ANUSVARA
  cDOT BELOWcVISARGAcVIRAMAcASATbCONSONANT SIGN MEDIAL YAeRAeWAeHAbLETTER GREAT SAbDIGIT ZEROcONE
  cTWOcTHREEcFOURcFIVEcSIXcSEVENcEIGHTcNINEbSIGN LITTLE SECTIONcb+104CbSYMBOL LOCATIVEcCOMPLETED
  cAFOREMENTIONEDcGENITIVEbLETTER SHAcSSAcVOCALIC RdRRdLdLLbVOWEL SIGN VOCALIC ReRReLeLL
  bLETTER MON NGAdJHAdBBAdBBEbCONSONANT SIGN MON MEDIAL NAfMAfLAbLETTER SGAW KAREN SHA
  bVOWEL SIGN SGAW KAREN EUbTONE MARK SGAW KAREN HATHIfKE PHObLETTER WESTERN PWO KAREN THAfPWA
  bVOWEL SIGN WESTERN PWO KAREN EUgUEbSIGN WESTERN PWO KAREN TONE-1fTONE-2fTONE-3fTONE-4fTONE-5
  bLETTER EASTERN PWO KAREN NNAfYWAfGHWAbVOWEL SIGN GEBA KAREN IdKAYAH OEeUeEEbLETTER SHAN KAdKHAdGA
  dCAdZAdNYAdDAdNAdPHAdFAdBAdTHAdHAbCONSONANT SIGN SHAN MEDIAL WAbVOWEL SIGN SHAN AAeEfABOVEeFINAL Y
  bSIGN SHAN TONE-2dTONE-3dTONE-5dTONE-6dCOUNCIL TONE-2eTONE-3eEMPHATIC TONEbLETTER RUMAI PALAUNG FA
  bSIGN RUMAI PALAUNG TONE-5bSHAN DIGIT ZEROdONEdTWOdTHREEdFOURdFIVEdSIXdSEVENdEIGHTdNINE
  bSIGN KHAMTI TONE-1dTONE-3bVOWEL SIGN AITON AeAIbSYMBOL SHAN ONEdEXCLAMATION
  aGEORGIAN CAPITAL LETTER ANdBANdGANdDONdENdVINdZENdTANdINdKANdLASdMANdNARdONdPARdZHARdRAEdSANdTAR
  dUNdPHARdKHARdGHANdQARdSHINdCHINdCANdJILdCILdCHARdXANdJHANdHAEdHEdHIEdWEdHARdHOE+10C7dYN+10CDdAEN
  +10D0bLETTER ANcBANcGANcDONcENcVINcZENcTANcINcKANcLAScMANcNARcONcPARcZHARcRAEcSANcTARcUNcPHARcKHAR
  cGHANcQARcSHINcCHINcCANcJILcCILcCHARcXANcJHANcHAEcHEcHIEcWEcHARcHOEcFIcYNcELIFIcTURNED GANcAIN
  bPARAGRAPH SEPARATORaMODIFIER LETTER GEORGIAN NARaGEORGIAN LETTER AENcHARD SIGNcbLABIAL
  aHANGUL CHOSEONG KIYEOKcSSANGKIYEOKcNIEUNcTIKEUTcSSANGTIKEUTcRIEULcMIEUMcPIEUPcSSANGPIEUPcSIOS
  cSSANGSIOScIEUNGcCIEUCcSSANGCIEUCcCHIEUCHcKHIEUKHcTHIEUTHcPHIEUPHcHIEUHcNIEUN-KIYEOKcSSANGNIEUN
  cNIEUN-TIKEUTcNIEUN-PIEUPcTIKEUT-KIYEOKcRIEUL-NIEUNcSSANGRIEULcRIEUL-HIEUHcKAPYEOUNRIEUL
  cMIEUM-PIEUPcKAPYEOUNMIEUMcPIEUP-KIYEOKcPIEUP-NIEUNcPIEUP-TIKEUTcPIEUP-SIOScPIEUP-SIOS-KIYEOK
  cPIEUP-SIOS-TIKEUTcPIEUP-SIOS-PIEUPcPIEUP-SSANGSIOScPIEUP-SIOS-CIEUCcPIEUP-CIEUCcPIEUP-CHIEUCH
  cPIEUP-THIEUTHcPIEUP-PHIEUPHcKAPYEOUNPIEUPcKAPYEOUNSSANGPIEUPcSIOS-KIYEOKcSIOS-NIEUNcSIOS-TIKEUT
  cSIOS-RIEULcSIOS-MIEUMcSIOS-PIEUPcSIOS-PIEUP-KIYEOKcSIOS-SSANGSIOScSIOS-IEUNGcSIOS-CIEUC
  cSIOS-CHIEUCHcSIOS-KHIEUKHcSIOS-THIEUTHcSIOS-PHIEUPHcSIOS-HIEUHcCHITUEUMSIOScCHITUEUMSSANGSIOS
  cCEONGCHIEUMSIOScCEONGCHIEUMSSANGSIOScPANSIOScIEUNG-KIYEOKcIEUNG-TIKEUTcIEUNG-MIEUMcIEUNG-PIEUP
  cIEUNG-SIOScIEUNG-PANSIOScSSANGIEUNGcIEUNG-CIEUCcIEUNG-CHIEUCHcIEUNG-THIEUTHcIEUNG-PHIEUPH
  cYESIEUNGcCIEUC-IEUNGcCHITUEUMCIEUCcCHITUEUMSSANGCIEUCcCEONGCHIEUMCIEUCcCEONGCHIEUMSSANGCIEUC
  cCHIEUCH-KHIEUKHcCHIEUCH-HIEUHcCHITUEUMCHIEUCHcCEONGCHIEUMCHIEUCHcPHIEUPH-PIEUPcKAPYEOUNPHIEUPH
  cSSANGHIEUHcYEORINHIEUHcKIYEOK-TIKEUTcNIEUN-SIOScNIEUN-CIEUCcNIEUN-HIEUHcTIKEUT-RIEULcFILLER
  bbJUNGSEONGcAcAEcYAcYAEcEOcEcYEOcYEcOcWAcWAEcOEcYOcUcWEOcWEcWIcYUcEUcYIcIcA-OcA-UcYA-OcYA-YOcEO-O
  cEO-UcEO-EUcYEO-OcYEO-UcO-EOcO-EcO-YEcO-OcO-UcYO-YAcYO-YAEcYO-YEOcYO-OcYO-IcU-AcU-AEcU-EO-EUcU-YE
  cU-UcYU-AcYU-EOcYU-EcYU-YEOcYU-YEcYU-UcYU-IcEU-UcEU-EUcYI-UcI-AcI-YAcI-OcI-UcI-EUcI-ARAEAcARAEA
  cARAEA-EOcARAEA-UcARAEA-IcSSANGARAEAcA-EUcYA-UcYEO-YAcO-YAcO-YAEbJONGSEONG KIYEOKcSSANGKIYEOK
  cKIYEOK-SIOScNIEUNcNIEUN-CIEUCcNIEUN-HIEUHcTIKEUTcRIEULcRIEUL-KIYEOKcRIEUL-MIEUMcRIEUL-PIEUP
  cRIEUL-SIOScRIEUL-THIEUTHcRIEUL-PHIEUPHcRIEUL-HIEUHcMIEUMcPIEUPcPIEUP-SIOScSIOScSSANGSIOScIEUNG
  cCIEUCcCHIEUCHcKHIEUKHcTHIEUTHcPHIEUPHcHIEUHcKIYEOK-RIEULcKIYEOK-SIOS-KIYEOKcNIEUN-KIYEOK
  cNIEUN-TIKEUTcNIEUN-SIOScNIEUN-PANSIOScNIEUN-THIEUTHcTIKEUT-KIYEOKcTIKEUT-RIEULcRIEUL-KIYEOK-SIOS
  cRIEUL-NIEUNcRIEUL-TIKEUTcRIEUL-TIKEUT-HIEUHcSSANGRIEULcRIEUL-MIEUM-KIYEOKcRIEUL-MIEUM-SIOS
  cRIEUL-PIEUP-SIOScRIEUL-PIEUP-HIEUHcRIEUL-KAPYEOUNPIEUPcRIEUL-SSANGSIOScRIEUL-PANSIOS
  cRIEUL-KHIEUKHcRIEUL-YEORINHIEUHcMIEUM-KIYEOKcMIEUM-RIEULcMIEUM-PIEUPcMIEUM-SIOScMIEUM-SSANGSIOS
  cMIEUM-PANSIOScMIEUM-CHIEUCHcMIEUM-HIEUHcKAPYEOUNMIEUMcPIEUP-RIEULcPIEUP-PHIEUPHcPIEUP-HIEUH
  cKAPYEOUNPIEUPcSIOS-KIYEOKcSIOS-TIKEUTcSIOS-RIEULcSIOS-PIEUPcPANSIOScIEUNG-KIYEOK
  cIEUNG-SSANGKIYEOKcSSANGIEUNGcIEUNG-KHIEUKHcYESIEUNGcYESIEUNG-SIOScYESIEUNG-PANSIOScPHIEUPH-PIEUP
  cKAPYEOUNPHIEUPHcHIEUH-NIEUNcHIEUH-RIEULcHIEUH-MIEUMcHIEUH-PIEUPcYEORINHIEUHcKIYEOK-NIEUN
  cKIYEOK-PIEUPcKIYEOK-CHIEUCHcKIYEOK-KHIEUKHcKIYEOK-HIEUHcSSANGNIEUNaETHIOPIC SYLLABLE HAcHUcHIcHAA
  cHEEcHEcHOcHOAcLAcLUcLIcLAAcLEEcLEcLOcLWAcHHAcHHUcHHIcHHAAcHHEEcHHEcHHOcHHWAcMAcMUcMIcMAAcMEEcME
  cMOcMWAcSZAcSZUcSZIcSZAAcSZEEcSZEcSZOcSZWAcRAcRUcRIcRAAcREEcREcROcRWAcSAcSUcSIcSAAcSEEcSEcSOcSWA
  cSHAcSHUcSHIcSHAAcSHEEcSHEcSHOcSHWAcQAcQUcQIcQAAcQEEcQEcQOcQOAcQWA+124AcQWIcQWAAcQWEEcQWE+1250cQHA
  cQHUcQHIcQHAAcQHEEcQHEcQHO+1258cQHWA+125AcQHWIcQHWAAcQHWEEcQHWE+1260cBAcBUcBIcBAAcBEEcBEcBOcBWAcVA
  cVUcVIcVAAcVEEcVEcVOcVWAcTAcTUcTIcTAAcTEEcTEcTOcTWAcCAcCUcCIcCAAcCEEcCEcCOcCWAcXAcXUcXIcXAAcXEEcXE
  cXOcXOAcXWA+128AcXWIcXWAAcXWEEcXWE+1290cNAcNUcNIcNAAcNEEcNEcNOcNWAcNYAcNYUcNYIcNYAAcNYEEcNYEcNYO
  cNYWAcGLOTTAL AdUdIdAAdEEdEdOdWAcKAcKUcKIcKAAcKEEcKEcKOcKOAcKWA+12B2cKWIcKWAAcKWEEcKWE+12B8cKXA
  cKXUcKXIcKXAAcKXEEcKXEcKXO+12C0cKXWA+12C2cKXWIcKXWAAcKXWEEcKXWE+12C8cWAcWUcWIcWAAcWEEcWEcWOcWOA
  cPHARYNGEAL AdUdIdAAdEEdEdO+12D8cZAcZUcZIcZAAcZEEcZEcZOcZWAcZHAcZHUcZHIcZHAAcZHEEcZHEcZHOcZHWAcYA
  cYUcYIcYAAcYEEcYEcYOcYOAcDAcDUcDIcDAAcDEEcDEcDOcDWAcDDAcDDUcDDIcDDAAcDDEEcDDEcDDOcDDWAcJAcJUcJI
  cJAAcJEEcJEcJOcJWAcGAcGUcGIcGAAcGEEcGEcGOcGOAcGWA+1312cGWIcGWAAcGWEEcGWE+1318cGGAcGGUcGGIcGGAA
  cGGEEcGGEcGGOcGGWAAcTHAcTHUcTHIcTHAAcTHEEcTHEcTHOcTHWAcCHAcCHUcCHIcCHAAcCHEEcCHEcCHOcCHWAcPHAcPHU
  cPHIcPHAAcPHEEcPHEcPHOcPHWAcTSAcTSUcTSIcTSAAcTSEEcTSEcTSOcTSWAcTZAcTZUcTZIcTZAAcTZEEcTZEcTZOcTZOA
  cFAcFUcFIcFAAcFEEcFEcFOcFWAcPAcPUcPIcPAAcPEEcPEcPOcPWAcRYAcMYAcFYA
  +135DbCOMBINING GEMINATION AND VOWEL LENGTH MARKcd+135FcbGEMINATIONbbSECTIONbWORDSPACEbFULL STOP
  bCOMMAbSEMICOLONbCOLONbbPREFACEbQUESTION MARKbPARAGRAPH SEPARATORbDIGIT ONEcTWOcTHREEcFOURcFIVE
  cSIXcSEVENcEIGHTcNINEbNUMBER TENcTWENTYcTHIRTYcFORTYcFIFTYcSIXTYcSEVENTYcEIGHTYcNINETYcHUNDRED
  cTEN THOUSAND+1380bSYLLABLE SEBATBEIT MWAcMWIcMWEEcMWEcSEBATBEIT BWAcBWIcBWEEcBWEcSEBATBEIT FWA
  cFWIcFWEEcFWEcSEBATBEIT PWAcPWIcPWEEcPWEbTONAL MARK YIZETdDERETdRIKRIKdbSHORTdDIFATdKENATdCHIRET
  dHIDETdDERET-HIDETdKURT+13A0aCHEROKEE LETTER AcEcIcOcUcVcGAcKAcGEcGIcGOcGUcGVcHAcHEcHIcHOcHUcHVcLA
  cLEcLIcLOcLUcLVcMAcMEcMIcMOcMUcNAcHNAcNAHcNEcNIcNOcNUcNVcQUAcQUEcQUIcQUOcQUUcQUVcSAcScSEcSIcSOcSU
  cSVcDAcTAcDEcTEcDIcTIcDOcDUcDVcDLAcTLAcTLEcTLIcTLOcTLUcTLVcTSAcTSEcTSIcTSOcTSUcTSVcWAcWEcWIcWOcWU
  cWVcYAcYEcYIcYOcYUcYVcMV+13F8bSMALL LETTER YEdYIdYOdYUdYVdMV+1400aCANADIAN SYLLABICS HYPHENcEcAAI
  cIcIIcOcOOcbY-CREEcCARRIER EEdIcAcAAcWEcbWEST-CREEcWIcbWEST-CREEcWIIcbWEST-CREEcWOcbWEST-CREEcWOO
  cbWEST-CREEcbNASKAPIcWAcbWEST-CREEcWAAcbWEST-CREEcbNASKAPIcAIcY-CREE WcGLOTTAL STOPcFINAL ACUTE
  dGRAVEdBOTTOM HALF RINGdcTOPdcRIGHTdb+1425dDOUBLE ACUTEeSHORT VERTICAL STROKESdMIDDLE DOT
  dSHORT HORIZONTAL STROKEdPLUSdDOWN TACKcENcINcONcANcPEcPAAIcPIcPIIcPOcPOOcbY-CREEcCARRIER HEEdHI
  cPAcPAAcPWEcbWEST-CREEcPWIcbWEST-CREEcPWIIcbWEST-CREEcPWOcbWEST-CREEcPWOOcbWEST-CREEcPWA
  cbWEST-CREEcPWAAcbWEST-CREEcbY-CREEcPcbWEST-CREEcCARRIER HcTEcTAAIcTIcTIIcTOcTOOcbY-CREE
  cCARRIER DEEdDIcTAcTAAcTWEcbWEST-CREEcTWIcbWEST-CREEcTWIIcbWEST-CREEcTWOcbWEST-CREEcTWOO
  cbWEST-CREEcTWAcbWEST-CREEcTWAAcbWEST-CREEcbNASKAPIcTcTTEcTTIcTTOcTTAcKEcKAAIcKIcKIIcKOcKOO
  cbY-CREEcKAcKAAcKWEcbWEST-CREEcKWIcbWEST-CREEcKWIIcbWEST-CREEcKWOcbWEST-CREEcKWOOcbWEST-CREEcKWA
  cbWEST-CREEcKWAAcbWEST-CREEcbNASKAPIcKcKWcSOUTH-SLAVEY KEHdKIHdKOHdKAHcCEcCAAIcCIcCIIcCOcCOO
  cbY-CREEcCAcCAAcCWEcbWEST-CREEcCWIcbWEST-CREEcCWIIcbWEST-CREEcCWOcbWEST-CREEcCWOOcbWEST-CREEcCWA
  cbWEST-CREEcCWAAcbWEST-CREEcbNASKAPIcCcSAYISI THcMEcMAAIcMIcMIIcMOcMOOcbY-CREEcMAcMAAcMWE
  cbWEST-CREEcMWIcbWEST-CREEcMWIIcbWEST-CREEcMWOcbWEST-CREEcMWOOcbWEST-CREEcMWAcbWEST-CREEcMWAA
  cbWEST-CREEcbNASKAPIcMcbWEST-CREEcMHcATHAPASCAN McbSAYISIcNEcNAAIcNIcNIIcNOcNOOcbY-CREEcNAcNAAcNWE
  cbWEST-CREEcNWAcbWEST-CREEcNWAAcbWEST-CREEcbNASKAPIcNcCARRIER NGcNHcLEcLAAIcLIcLIIcLOcLOOcbY-CREE
  cLAcLAAcLWEcbWEST-CREEcLWIcbWEST-CREEcLWIIcbWEST-CREEcLWOcbWEST-CREEcLWOOcbWEST-CREEcLWA
  cbWEST-CREEcLWAAcbWEST-CREEcLcbWEST-CREEcbMEDIALcSEcSAAIcSIcSIIcSOcSOOcbY-CREEcSAcSAAcSWE
  cbWEST-CREEcSWIcbWEST-CREEcSWIIcbWEST-CREEcSWOcbWEST-CREEcSWOOcbWEST-CREEcSWAcbWEST-CREEcSWAA
  cbWEST-CREEcbNASKAPIcScbATHAPASCANcSWcBLACKFOOT ScMOOSE-CREE SKcNASKAPI SKWdS-WdSPWAdSTWAdSKWA
  dSCWAcSHEcSHIcSHIIcSHOcSHOOcSHAcSHAAcSHWEcbWEST-CREEcSHWIcbWEST-CREEcSHWIIcbWEST-CREEcSHWO
  cbWEST-CREEcSHWOOcbWEST-CREEcSHWAcbWEST-CREEcSHWAAcbWEST-CREEcSHcYEcYAAIcYIcYIIcYOcYOOcbY-CREEcYA
  cYAAcYWEcbWEST-CREEcYWIcbWEST-CREEcYWIIcbWEST-CREEcYWOcbWEST-CREEcYWOOcbWEST-CREEcYWAcbWEST-CREE
  cYWAAcbWEST-CREEcbNASKAPIcYcbBIBLE-CREEcbWEST-CREEcSAYISI YIcREcbR-CREEcWEST-CREE LEcRAAIcRIcRII
  cROcROOcWEST-CREE LOcRAcRAAcWEST-CREE LAcRWAAcbWEST-CREEcRcbWEST-CREEcbMEDIALcFEcFAAIcFIcFIIcFO
  cFOOcFAcFAAcFWAAcbWEST-CREEcFcTHEcbN-CREEcTHIcbN-CREEcTHIIcbN-CREEcTHOcTHOOcTHAcTHAAcTHWAA
  cbWEST-CREEcTHcTTHEcTTHIcTTHOcTTHAcTTHcTYEcTYIcTYOcTYAcNUNAVIK HEdHIdHIIdHOdHOOdHAdHAAdHcbNUNAVUT
  cHKcQAAIcQIcQIIcQOcQOOcQAcQAAcQcTLHEcTLHIcTLHOcTLHAcWEST-CREE REdRIdROdRAcNGAAIcNGIcNGIIcNGOcNGOO
  cNGAcNGAAcNGcNNGcSAYISI SHEdSHIdSHOdSHAcWOODS-CREE THEdTHIdTHOdTHAdTHcLHIcLHIIcLHOcLHOOcLHAcLHAA
  cLHcTH-CREE THEdTHIdTHIIdTHOdTHOOdTHAdTHAAdTHcAIVILIK BcBLACKFOOT EdIdOdAdWEdWIdWOdWAdNEdNIdNOdNA
  dKEdKIdKOdKAcSAYISI HEdHIdHOdHAcCARRIER GHUdGHOdGHEdGHEEdGHIdGHAdRUdROdREdREEdRIdRAdWUdWOdWEdWEE
  dWIdWAdHWUdHWOdHWEdHWEEdHWIdHWAdTHUdTHOdTHEdTHEEdTHIdTHAdTTUdTTOdTTEdTTEEdTTIdTTAdPUdPOdPEdPEEdPI
  dPAdPdGUdGOdGEdGEEdGIdGAdKHUdKHOdKHEdKHEEdKHIdKHAdKKUdKKOdKKEdKKEEdKKIdKKAdKKdNUdNOdNEdNEEdNIdNA
  dMUdMOdMEdMEEdMIdMAdYUdYOdYEdYEEdYIdYAdJUcbSAYISIcCARRIER JOdJEdJEEdJIcbSAYISIcCARRIER JAdJJUdJJO
  dJJEdJJEEdJJIdJJAdLUdLOdLEdLEEdLIdLAdDLUdDLOdDLEdDLEEdDLIdDLAdLHUdLHOdLHEdLHEEdLHIdLHAdTLHUdTLHO
  dTLHEdTLHEEdTLHIdTLHAdTLUdTLOdTLEdTLEEdTLIdTLAdZUdZOdZEdZEEdZIdZAdZdbINITIALdDZUdDZOdDZEdDZEEdDZI
  dDZAdSUdSOdSEdSEEdSIdSAdSHUdSHOdSHEdSHEEdSHIdSHAdSHdTSUdTSOdTSEdTSEEdTSIdTSAdCHUdCHOdCHEdCHEEdCHI
  dCHAdTTSUdTTSOdTTSEdTTSEEdTTSIdTTSAcCHI SIGNcFULL STOPcQAIcNGAIcNNGIcNNGIIcNNGOcNNGOOcNNGAcNNGAA
  cWOODS-CREE THWEEdTHWIdTHWIIdTHWOdTHWOOdTHWAdTHWAAdFINAL THcBLACKFOOT WaOGHAM SPACE MARK
  bLETTER BEITHcLUIScFEARNcSAILcNIONcUATHcDAIRcTINNEcCOLLcCEIRTcMUINcGORTcNGEADALcSTRAIFcRUIScAILM
  cONNcURcEADHADHcIODHADHcEABHADHcORcUILLEANNcIFINcEAMHANCHOLLcPEITHbFEATHER MARKbcREVERSED
  +16A0aRUNIC LETTER FEHU FEOH FE FcVcURUZ UR UcYRcYcWcTHURISAZ THURS THORNcETHcANSUZ AcOS OcAC A
  cAESCcLONG-BRANCH-OSS OcbSHORT-TWIG-OSScb+16AFcOEcONcRAIDO RAD REID RcKAUNAcCENcKAUN KcGcENG
  cGEBO GYFU GcGARcWUNJO WYNN WcHAGLAZ HcbHAEGLcbLONG-BRANCH-HAGALLcbSHORT-TWIG-HAGALL
  cNAUDIZ NYD NAUD NcbSHORT-TWIG-NAUDcDOTTED-NcISAZ IS ISS IcEcJERAN JcGERcLONG-BRANCH-AR AE
  cSHORT-TWIG-AR AcIWAZ EOHcPERTHO PEORTH PcALGIZ EOLHXcSOWILO ScbSIGEL LONG-BRANCH-SOL
  cbSHORT-TWIG-SOLcCcZcTIWAZ TIR TYR TcbSHORT-TWIG-TYRcDcBERKANAN BEORC BJARKAN B
  cbSHORT-TWIG-BJARKANcDOTTED-PcOPEN-PcEHWAZ EH EcMANNAZ MAN McbLONG-BRANCH-MADRcbSHORT-TWIG-MADR
  cLAUKAZ LAGU LOGR LcDOTTED-LcINGWAZcINGcDAGAZ DAEG DcOTHALAN ETHEL OcEARcIORcCWEORTHcCALCcCEALC
  cSTANcLONG-BRANCH-YRcSHORT-TWIG-YRcICELANDIC-YRcQcXbSINGLE PUNCTUATIONbbMULTIPLEbbCROSS
  bARLAUG SYMBOLbbTVIMADURbbBELGTHORbLETTER KcSHcOOcFRANKS CASKET OSeISeEHeACeAESC
  +1700aTAGALOG LETTER AcIcUcKAcGAcNGAcTAcDAcNAcPAcBAcMAcYAcRAcLAcWAcSAcHAbVOWEL SIGN IdU
  bSIGN VIRAMAcPAMUDPOD+171FbLETTER ARCHAIC RAaHANUNOO LETTER AcIcUcKAcGAcNGAcTAcDAcNAcPAcBAcMAcYA
  cRAcLAcWAcSAcHAbVOWEL SIGN IdUbSIGN PAMUDPODaPHILIPPINE SINGLE PUNCTUATIONbbDOUBLE
  +1740aBUHID LETTER AcIcUcKAcGAcNGAcTAcDAcNAcPAcBAcMAcYAcRAcLAcWAcSAcHAbVOWEL SIGN IdU
  +1760aTAGBANWA LETTER AcIcUcKAcGAcNGAcTAcDAcNAcPAcBAcMAcYA+176EcLAcWAcSA+1772bVOWEL SIGN IdU
  +1780aKHMER LETTER KAcKHAcKOcKHOcNGOcCAcCHAcCOcCHOcNYOcDAcTTHAcDOcTTHOcNNOcTAcTHAcTOcTHOcNOcBAcPHA
  cPOcPHOcMOcYOcROcLOcVOcSHAcSSOcSAcHAcLAcQAbINDEPENDENT VOWEL QAQdQAAdQIdQIIdQUdQUKdQUUdQUUVdRYdRYY
  dLYdLYYdQEdQAIdQOO TYPE ONEfTWOdQAUbVOWEL INHERENT AQdAAcbSIGNdIdIIdYdYYdUdUUdUAdOEdYAdIEdEdAEdAI
  dOOdAUbSIGN NIKAHITcREAHMUKcYUUKALEAPINTUcMUUSIKATOANcTRIISAPcBANTOCcROBATcTOANDAKHIATcKAKABAT
  cAHSDAcSAMYOK SANNYAcVIRIAMcCOENGcBATHAMASATcKHANcBARIYOOSANcCAMNUC PII KUUHcLEK TOOcBEYYAL
  cPHNAEK MUANcKOOMUUTbCURRENCY SYMBOL RIELbSIGN AVAKRAHASANYAcATTHACAN+17E0bDIGIT ZEROcONEcTWO
  cTHREEcFOURcFIVEcSIXcSEVENcEIGHTcNINE+17F0bSYMBOL LEK ATTAK SONeMUOYePIIeBEIeBUONePRAMePRAM-MUOY
  ePRAM-PIIePRAM-BEIePRAM-BUON+1800aMONGOLIAN BIRGAbELLIPSISbCOMMAbFULL STOPbCOLONbFOUR DOTS
  bTODO SOFT HYPHENbSIBE SYLLABLE BOUNDARY MARKERbMANCHU COMMAcFULL STOPbNIRUGU
  bFREE VARIATION SELECTOR ONEeTWOeTHREEbVOWEL SEPARATORbFREE VARIATION SELECTOR FOURbDIGIT ZEROcONE
  cTWOcTHREEcFOURcFIVEcSIXcSEVENcEIGHTcNINE+1820bLETTER AcEcIcOcUcOEcUEcEEcNAcANGcBAcPAcQAcGAcMAcLA
  cSAcSHAcTAcDAcCHAcJAcYAcRAcWAcFAcKAcKHAcTSAcZAcHAAcZRAcLHAcZHIcCHIcTODO LONG VOWEL SIGNdEdIdOdUdOE
  dUEdANGdBAdPAdQAdGAdMAdTAdDAdCHAdJAdTSAdYAdWAdKAdGAAdHAAdJIAdNIAdDZAcSIBE EdIdIYdUEdUdANGdKAdGAdHA
  dPAdSHAdTAdDAdJAdFAdGAAdHAAdTSAdZAdRAAdCHAdZHAcMANCHU IdKAdRAdFAdZHAcCHA WITH TWO DOTS
  +1880cALI GALI ANUSVARA ONEebVISARGAeDAMARUeUBADAMAebINVERTEDeBALUDAebTHREEeAeIeKAeNGAeCAeTTAeTTHA
  eDDAeNNAeTAeDAePAePHAeSSAeZHAeZAeAHcTODO ALI GALI TAfZHAcMANCHU ALI GALI GHAfNGAfCAfJHAfTTAfDDHA
  fTAfDHAfSSAfCYAfZHAfZAcALI GALI HALF UfYAcMANCHU ALI GALI BHAcALI GALI DAGALGAcMANCHU ALI GALI LHA
  +18B0aCANADIAN SYLLABICS OYcAYcAAYcWAYcPOYcPAYcPWOYcTAYcKAYcKWAYcMAYcNOYcNAYcLAYcSOYcSAYcSHOYcSHAY
  cSHWOYcYOYcYAYcRAYcNWIcbOJIBWAYcNWIIcbOJIBWAYcNWOcbOJIBWAYcNWOOcbOJIBWAYcRWEEcRWIcRWIIcRWOcRWOO
  cRWAcOJIBWAY PdTdKdCdMdNdSdSHcEASTERN WcbWESTERNcFINAL SMALL RINGdRAISED DOTcR-CREE RWE
  cWEST-CREE LOOdLAAcTHWEcTHWAcTTHWEcTTHOOcTTHAAcTLHWEcTLHOOcSAYISI SHWEdSHOOdHOOcCARRIER GWU
  dDENE GEEdGAAdGWAcSAYISI JUUcCARRIER JWAcBEAVER DENE LeRcCARRIER DENTAL S
  +1900aLIMBU VOWEL-CARRIER LETTERbLETTER KAcKHAcGAcGHAcNGAcCAcCHAcJAcJHAcYANcTAcTHAcDAcDHAcNAcPA
  cPHAcBAcBHAcMAcYAcRAcLAcWAcSHAcSSAcSAcHAcGYANcTRA+1920bVOWEL SIGN AdIdUdEEdAIdOOdAUdEdO
  bSUBJOINED LETTER YAdRAdWA+1930bSMALL LETTER KAdNGAdANUSVARAdTAdNAdPAdMAdRAdLAbSIGN MUKPHRENG
  cKEMPHRENGcSA-I+1940cLOO+1944bEXCLAMATION MARKbbQUESTIONbDIGIT ZEROcONEcTWOcTHREEcFOURcFIVEcSIX
  cSEVENcEIGHTcNINEaTAI LE LETTER KAdXAdNGAdTSAdSAdYAdTAdTHAdLAdPAdPHAdMAdFAdVAdHAdQAdKHAdTSHAdNAdA
  dIdEEdEHdUdOOdOdUEdEdAUEdAI+1970dTONE-2dTONE-3dTONE-4dTONE-5dTONE-6
  +1980aNEW TAI LUE LETTER HIGH QAebLOWeHIGH KAfXAfNGAeLOW KAfXAfNGAeHIGH TSAfSAfYAeLOW TSAfSAfYA
  eHIGH TAfTHAfNAeLOW TAfTHAfNAeHIGH PAfPHAfMAeLOW PAfPHAfMAeHIGH FAfVAfLAeLOW FAfVAfLAeHIGH HAfDA
  fBAeLOW HAfDAfBAeHIGH KVAfXVAeLOW KVAfXVAeHIGH SUAebLOW+19B0dVOWEL SIGN VOWEL SHORTENERfAAfIIfUfUU
  fEfAEfOfOAfUEfAYfAAYfUYfOYfOAYfUEYfIYdLETTER FINAL VfNGfNfMfKfDfBdTONE MARK-1eMARK-2
  +19D0dDIGIT ZEROeONEeTWOeTHREEeFOUReFIVEeSIXeSEVENeEIGHTeNINEdTHAM DIGIT ONE+19DEdSIGN LAEeLAEV
  aKHMER SYMBOL PATHAMASATcMUOY KOETcbPIIcbBEIcbBUONcbPRAMcbPRAM-MUOYcbPRAM-PIIcbPRAM-BEIcbPRAM-BUON
  cbDAPcbDAP-MUOYcbDAP-PIIcbDAP-BEIcbDAP-BUONcbDAP-PRAMcTUTEYASATcMUOY ROCcbPIIcbBEIcbBUONcbPRAM
  cbPRAM-MUOYcbPRAM-PIIcbPRAM-BEIcbPRAM-BUONcbDAPcbDAP-MUOYcbDAP-PIIcbDAP-BEIcbDAP-BUONcbDAP-PRAM
  aBUGINESE LETTER KAcGAcNGAcNGKAcPAcBAcMAcMPAcTAcDAcNAcNRAcCAcJAcNYAcNYCAcYAcRAcLAcVAcSAcAcHA
  bVOWEL SIGN IdUdEdOdAE+1A1EbPALLAWAbEND OF SECTIONaTAI THAM LETTER HIGH KAeKHAeKXAdLOW KAeKXAeKHA
  dNGAdHIGH CAeCHAdLOW CAeSAeCHAdNYAdRATAdHIGH RATHAdDAdLOW RATHAdRANAdHIGH TAeTHAdLOW TAeTHAdNAdBA
  dHIGH PAePHAeFAdLOW PAeFAePHAdMAdLOW YAdbHIGHdRAdRUEdLAdLUEdWAdHIGH SHAeSSAeSAeHAdLLAdAdLOW HAdI
  dIIdUdUUdEEdOOdLAEdGREAT SAcCONSONANT SIGN MEDIAL RAfLAeLA TANG LAIcbSIGN MAI KANG
  cCONSONANT SIGN FINAL NGAeLOW PAecHIGH RATHA OReMAeBAeSA+1A60cSIGN SAKOTcVOWEL SIGN AeMAI SATeAA
  ebTALLeIeIIeUEeUUEeUeUUeOeOA BELOWeOYeEeAEeOOeAIebTHAMeOA ABOVEcSIGN MAI KANGdTONE-1dTONE-2
  dKHUEN TONE-3eTONE-4eTONE-5dRA HAAMdMAI SAMdKHUEN-LUE KARAN+1A7FcCOMBINING CRYPTOGRAMMIC DOT
  cHORA DIGIT ZEROeONEeTWOeTHREEeFOUReFIVEeSIXeSEVENeEIGHTeNINE+1A90cTHAM DIGIT ZEROeONEeTWOeTHREE
  eFOUReFIVEeSIXeSEVENeEIGHTeNINE+1AA0cSIGN WIANGdWIANGWAAKdSAWANdKEOWdHOYdDOKMAI
  dREVERSED ROTATED RANAdMAI YAMOKdKAANdKAANKUUdSATKAANdSATKAANKUUdHANGdCAANG
  +1AB0aCOMBINING DOUBLED CIRCUMFLEX ACCENTbDIAERESIS-RINGbINFINITYbDOWNWARDS ARROWbTRIPLE DOT
  bX-X BELOWbbWIGGLY LINEbbOPEN MARKbdDOUBLEbbLIGHT CENTRALIZATION STROKEbdSTRONGbPARENTHESES ABOVE
  bcDOUBLEbPARENTHESES BELOWcOVERLAYbLATIN SMALL LETTER W BELOWecTURNEDbLEFT PARENTHESIS ABOVE LEFT
  bRIGHT PARENTHESIS ABOVE RIGHTbLEFT PARENTHESIS BELOW LEFTbRIGHT PARENTHESIS BELOW RIGHT
  bSQUARE BRACKETS ABOVEbbNUMBER SIGNbbINVERTED DOUBLE ARCHbbPLUS SIGNbdDOUBLEeBELOW
  bTRIPLE ACUTE ACCENTbLATIN SMALL LETTER INSULAR GfRfT+1B00aBALINESE SIGN ULU RICEMdCANDRAcCECEK
  cSURANGcBISAHbLETTER AKARAdTEDUNGcIKARAdTEDUNGcUKARAdTEDUNGcRA REPAeTEDUNGcLA LENGAeTEDUNGcEKARA
  cAIKARAcOKARAdTEDUNGcKAdMAHAPRANAcGAdGORAcNGAcCAdLACAcJAdJERAcNYAcTA LATIKdMURDA MAHAPRANA
  cDA MURDA ALPAPRANAeMAHAPRANAcNA RAMBATcTAdTAWAcDAdMADUcNAcPAdKAPALcBAdKEMBANGcMAcYAcRAcLAcWA
  cSA SAGAdSAPAd+1B33cHAbSIGN REREKANbVOWEL SIGN TEDUNGdULUeSARIdSUKUeILUTdRA REPAfTEDUNGdLA LENGA
  fTEDUNGdTALINGeREPAeTEDUNGebREPAdPEPETeTEDUNGbADEG ADEGbLETTER KAF SASAKcbKHOTcbTZIRcbEFcbVEcbZAL
  cbASYURAcARCHAIC JNYA+1B50bDIGIT ZEROcONEcTWOcTHREEcFOURcFIVEcSIXcSEVENcEIGHTcNINEbPANTIbPAMADA
  bWINDUbCARIK PAMUNGKAHcSIKIcPARERENbPAMENENGbMUSICAL SYMBOL DONGdDENGdDUNGdDANGeSURANGdDINGdDAENG
  dDEUNGdDAINGdDANG GEDEdCOMBINING TEGEHeENDEPeKEMPULeKEMPLIeJEGOGANebKEMPUL WITHecKEMPLIeBENDEeGONG
  dRIGHT-HAND OPEN DUGfDAGeCLOSED TUKfTAKdLEFT-HAND OPEN PANGfPUNGeCLOSED PLAKfPLUKeOPEN PING
  bPANTI LANTANGbbPAMADA+1B80aSUNDANESE SIGN PANYECEKcPANGLAYARcPANGWISADbLETTER AcIcUcAEcOcEcEUcKA
  cQAcGAcNGAcCAcJAcZAcNYAcTAcDAcNAcPAcFAcVAcBAcMAcYAcRAcLAcWAcSAcXAcHAbCONSONANT SIGN PAMINGKAL
  dPANYAKRAdPANYIKUbVOWEL SIGN PANGHULUdPANYUKUdPANAELAENGdPANOLONGdPAMEPETdPANEULEUNGbSIGN PAMAAEH
  cVIRAMAbCONSONANT SIGN PASANGAN MAeWAbLETTER KHAcSYAbDIGIT ZEROcONEcTWOcTHREEcFOURcFIVEcSIXcSEVEN
  cEIGHTcNINEbAVAGRAHAbLETTER REUcLEUcBHAcFINAL KdMaBATAK LETTER AcbSIMALUNGUNcHAcbSIMALUNGUN
  cbMANDAILINGcBAcbKAROcPAcbSIMALUNGUNcNAcbMANDAILINGcWAcbSIMALUNGUNcbPAKPAKcGAcbSIMALUNGUNcJAcDAcRA
  cbSIMALUNGUNcMAcbSIMALUNGUNcSOUTHERN TAcbNORTHERNcSAcbSIMALUNGUNcbMANDAILINGcYAcbSIMALUNGUNcNGAcLA
  cbSIMALUNGUNcNYAcCAcNDAcMBAcIcUbSIGN TOMPIbVOWEL SIGN EdbPAKPAKdEEdIdbKAROdOdbKAROdU
  eFOR SIMALUNGUN SAbCONSONANT SIGN NGdHbPANGOLATbPANONGONAN+1BFCbSYMBOL BINDU NA METEKdPINARBORAS
  dJUDULdPANGOLATaLEPCHA LETTER KAcKLAcKHAcGAcGLAcNGAcCAcCHAcJAcNYAcTAcTHAcDAcNAcPAcPLAcPHAcFAcFLA
  cBAcBLAcMAcMLAcTSAcTSHAcDZAcYAcRAcLAcHAcHLAcVAcSAcSHAcWAcAbSUBJOINED LETTER YAdRAbVOWEL SIGN AAdI
  dOdOOdUdUUdEbCONSONANT SIGN KdMdLdNdPdRdTdNYIN-DOdKANGbSIGN RANcNUKTA+1C3BbPUNCTUATION TA-ROL
  cbNYET THYOOMcCER-WAcbTSHOOKd+1C40bDIGIT ZEROcONEcTWOcTHREEcFOURcFIVEcSIXcSEVENcEIGHTcNINE
  +1C4DbLETTER TTAcTTHAcDDAaOL CHIKI DIGIT ZEROdONEdTWOdTHREEdFOURdFIVEdSIXdSEVENdEIGHTdNINE
  cLETTER LAdATdAGdANGdALdLAAdAAKdAAJdAAMdAAWdLIdISdIHdINYdIRdLUdUCdUDdUNNdUYdLEdEPdEDDdENdERRdLO
  dOTTdOBdOVdOHcMU TTUDDAGcGAAHLAA TTUDDAAGcbMU-GAAHLAAcRELAAcPHAARKAAcAHADcPUNCTUATION MUCAAD
  dbDOUBLEaCYRILLIC SMALL LETTER ROUNDED VEdLONG-LEGGED DEdNARROW OdWIDE ESdTALL TEdbTHREE-LEGGED
  dTALL HARD SIGNeYATdUNBLENDED UK+1C90aGEORGIAN MTAVRULI CAPITAL LETTER ANeBANeGANeDONeENeVINeZEN
  eTANeINeKANeLASeMANeNAReONePAReZHAReRAEeSANeTAReUNePHAReKHAReGHANeQAReSHINeCHINeCANeJILeCILeCHAR
  eXANeJHANeHAEeHEeHIEeWEeHAReHOEeFIeYNeELIFIeTURNED GANeAIN+1CBDeAENeHARD SIGNebLABIAL
  aSUNDANESE PUNCTUATION BINDU SURYAdPANGLONGdPURNAMAdCAKRAdLEU SATANGAdbKAdbDAdbBA
  +1CD0aVEDIC TONE KARSHANAcSHARAcPRENKHAbSIGN NIHSHVASAcYAJURVEDIC MIDLINE SVARITA
  bbTONE YAJURVEDIC AGGRAVATED INDEPENDENTdc+1CD7dcKATHAKAcCANDRA BELOW
  cYAJURVEDIC KATHAKA INDEPENDENT SVARITA SCHROEDERcDOUBLE SVARITAcbTRIPLEcKATHAKA ANUDATTA
  cDOT BELOWcbTWO DOTSccTHREEcRIGVEDIC KASHMIRI INDEPENDENT SVARITAccATHARVAVEDICbbSIGN VISARGA
  dUDATTAccREVERSEDcVISARGA ANUDATTAccREVERSEDcVISARGA UDATTA WITH TAILdcANUDATTA
  cANUSVARA ANTARGOMUKHAdBAHIRGOMUKHAdVAMAGOMUKHAeWITH TAILcTIRYAKcHEXIFORM LONG ANUSVARAcc
  +1CF0ccRTHANGcANUSVARA UBHAYATO MUKHAcARDHAVISARGAcbROTATEDbTONE CANDRA ABOVEbSIGN JIHVAMULIYA
  cUPADHMANIYAcATIKRAMAbTONE RING ABOVEccDOUBLEbSIGN DOUBLE ANUSVARA ANTARGOMUKHA
  +1D00aLATIN LETTER SMALL CAPITAL AeAEbbSMALL LETTER TURNEDbLETTER SMALL CAPITAL BARRED BeCeDeETHeE
  bbSMALL LETTER TURNED OPENeIbLETTER SMALL CAPITAL JeKeL WITH STROKEeMeREVERSED NeOebOPEN
  bbSMALL LETTER SIDEWAYSebOPENeO WITH STROKEdTURNED OEbLETTER SMALL CAPITAL OU
  bSMALL LETTER TOP HALF OdcBOTTOMbLETTER SMALL CAPITAL PeREVERSED RebTURNEDeTeU
  bbSMALL LETTER SIDEWAYSebDIAERESIZEDeTURNED MbLETTER SMALL CAPITAL VeWeZeEZH
  cVOICED LARYNGEAL SPIRANTcAINaGREEK LETTER SMALL CAPITAL GAMMAeLAMDAePIeRHOePSI
  aCYRILLIC LETTER SMALL CAPITAL ELaMODIFIER LETTER CAPITAL AdAEdBdbBARREDdDdEdbREVERSEDdGdHdIdJdKdL
  dMdNdbREVERSEDdOdOUdPdRdTdUdWcSMALL AdbTURNEDdALPHAdTURNED AEdBdDdEdSCHWAdOPEN EdcTURNEDdG
  dTURNED IdKdMdENGdOdbOPENdbTOP HALFdcBOTTOMdPdTdUdbSIDEWAYSdTURNED MdVdAINdBETAdGREEK GAMMAdDELTA
  dGREEK PHIdCHIaLATIN SUBSCRIPT SMALL LETTER IeReUeVaGREEK SUBSCRIPT SMALL LETTER BETAeGAMMAeRHO
  ePHIeCHIaLATIN SMALL LETTER UEdB WITH MIDDLE TILDEddDddFddMddNddPddRfcFISHHOOK ANDdcS WITHddTddZ
  dTURNED GaMODIFIER LETTER CYRILLIC ENaLATIN SMALL LETTER INSULAR GdTH WITH STRIKETHROUGH
  cCAPITAL LETTER I WITH STROKEccLETTER IOTAdcPccCAPITAL LETTER UccLETTER UPSILON
  dB WITH PALATAL HOOKddDddFddGddKddLddMddNddPddRddSddESHddVddXddZdbA WITH RETROFLEXddALPHA
  dD WITH HOOK AND TAILdE WITH RETROFLEX HOOKdeOPENdfREVERSEDddSCHWAddIddOPEN OddESHddUddEZH
  aMODIFIER LETTER SMALL TURNED ALPHAdCeWITH CURLdETHdREVERSED OPEN EdFdDOTLESS J WITH STROKE
  dSCRIPT GdTURNED HdI WITH STROKEdIOTAdCAPITAL IfWITH STROKEdJ WITH CROSSED-TAIL
  dL WITH RETROFLEX HOOKfbPALATALdCAPITAL LdM WITH HOOKdTURNED M WITH LONG LEGdN WITH LEFT HOOK
  fbRETROFLEXdCAPITAL NdBARRED OdPHIdS WITH HOOKdESHdT WITH PALATAL HOOKdU BARdUPSILONdCAPITAL U
  dV WITH HOOKdTURNED VdZeWITH RETROFLEX HOOKfCURLdEZHdTHETAaCOMBINING DOTTED GRAVE ACCENTcbACUTE
  bSNAKE BELOWbSUSPENSION MARKbMACRON-ACUTEbGRAVE-MACRONbMACRON-GRAVEbACUTE-MACRONbGRAVE-ACUTE-GRAVE
  bACUTE-GRAVE-ACUTEbLATIN SMALL LETTER R BELOWbBREVE-MACRONbMACRON-BREVEbDOUBLE CIRCUMFLEX ABOVE
  bbOGONEKbZIGZAG BELOWbbISbUR ABOVEbbUSbbLATIN SMALL LETTER FLATTENED OPEN AeAEeAOeAVeC CEDILLA
  eINSULAR DeETHeGcbLETTER SMALL CAPITALcSMALL LETTER KeLcbLETTER SMALL CAPITALfMcSMALL LETTER N
  cbLETTER SMALL CAPITALfRcSMALL LETTER R ROTUNDAeSebLONGeZeALPHAeBeBETAeSCHWAeF
  eL WITH DOUBLE MIDDLE TILDEeO WITH LIGHT CENTRALIZATION STROKEePeESH
  eU WITH LIGHT CENTRALIZATION STROKEeWeA WITH DIAERESISecOecUbUP TACK ABOVEbKAVYKA ABOVE RIGHTdLEFT
  bcDOTbWIDE INVERTED BRIDGE BELOWbDOT BELOW LEFTbDELETION MARKbDOUBLE INVERTED BREVE BELOW
  bbALMOST EQUAL TObLEFT ARROWHEAD ABOVEbRIGHT ARROWHEAD AND DOWN ARROWHEAD BELOW
  abLATIN CAPITAL LETTER A WITH RINGbfSMALLbCAPITAL LETTER B WITH DOT ABOVEbfSMALL
  bCAPITAL LETTER B WITH DOT BELOWbfSMALLbbCAPITAL LETTER B WITH LINEbfSMALL
  bCAPITAL LETTER C WITH CEDILLA AND ACUTEbgSMALLbCAPITAL LETTER D WITH DOT ABOVEbfSMALL
  bCAPITAL LETTER D WITH DOT BELOWbfSMALLbbCAPITAL LETTER D WITH LINEbfSMALL
  bCAPITAL LETTER D WITH CEDILLAbeSMALLbCAPITAL LETTER D WITH CIRCUMFLEX BELOWbfSMALL
  bCAPITAL LETTER E WITH MACRON AND GRAVEbgSMALLbCAPITAL LETTER E WITH MACRON AND ACUTEbgSMALL
  bCAPITAL LETTER E WITH CIRCUMFLEX BELOWbfSMALLbbCAPITAL LETTER E WITH TILDEbfSMALL
  bCAPITAL LETTER E WITH CEDILLA AND BREVEbgSMALLbCAPITAL LETTER F WITH DOT ABOVEbfSMALL
  bCAPITAL LETTER G WITH MACRONbeSMALLbCAPITAL LETTER H WITH DOT ABOVEbfSMALL
  bCAPITAL LETTER H WITH DOT BELOWbfSMALLbCAPITAL LETTER H WITH DIAERESISbeSMALL
  bCAPITAL LETTER H WITH CEDILLAbeSMALLbCAPITAL LETTER H WITH BREVE BELOWbfSMALL
  bbCAPITAL LETTER I WITH TILDEbfSMALLbCAPITAL LETTER I WITH DIAERESIS AND ACUTEbgSMALL
  bbCAPITAL LETTER K WITHbeSMALLbCAPITAL LETTER K WITH DOT BELOWbfSMALLbbCAPITAL LETTER K WITH LINE
  bfSMALLbbCAPITAL LETTER L WITH DOTbfSMALLbCAPITAL LETTER L WITH DOT BELOW AND MACRONbhSMALL
  bCAPITAL LETTER L WITH LINE BELOWbfSMALLbbCAPITAL LETTER L WITH CIRCUMFLEXbfSMALL
  bCAPITAL LETTER M WITH ACUTEbeSMALLbCAPITAL LETTER M WITH DOT ABOVEbfSMALL
  bCAPITAL LETTER M WITH DOT BELOWbfSMALLbCAPITAL LETTER N WITH DOT ABOVEbfSMALL
  bCAPITAL LETTER N WITH DOT BELOWbfSMALLbbCAPITAL LETTER N WITH LINEbfSMALL
  bbCAPITAL LETTER N WITH CIRCUMFLEXbfSMALLbCAPITAL LETTER O WITH TILDE AND ACUTEbgSMALL
  bCAPITAL LETTER O WITH TILDE AND DIAERESISbgSMALLbCAPITAL LETTER O WITH MACRON AND GRAVEbgSMALL
  bCAPITAL LETTER O WITH MACRON AND ACUTEbgSMALLbbCAPITAL LETTER P WITHbeSMALL
  bCAPITAL LETTER P WITH DOT ABOVEbfSMALLbdCAPITAL LETTER RbfSMALLbCAPITAL LETTER R WITH DOT BELOW
  bfSMALLbCAPITAL LETTER R WITH DOT BELOW AND MACRONbhSMALLbCAPITAL LETTER R WITH LINE BELOWbfSMALL
  bCAPITAL LETTER S WITH DOT ABOVEbfSMALLbCAPITAL LETTER S WITH DOT BELOWbfSMALL
  bCAPITAL LETTER S WITH ACUTE AND DOT ABOVEbhSMALLbdCAPITAL LETTER S WITH CARONbhSMALL
  bdCAPITAL LETTER S WITH DOT BELOWbiSMALLbcCAPITAL LETTER T WITHbfSMALL
  bCAPITAL LETTER T WITH DOT BELOWbfSMALLbbCAPITAL LETTER T WITH LINEbfSMALL
  bbCAPITAL LETTER T WITH CIRCUMFLEXbfSMALLbbCAPITAL LETTER U WITH DIAERESISbfSMALL
  bbCAPITAL LETTER U WITH TILDEbfSMALLbbCAPITAL LETTER U WITH CIRCUMFLEXbfSMALL
  bCAPITAL LETTER U WITH TILDE AND ACUTEbgSMALLbCAPITAL LETTER U WITH MACRON AND DIAERESISbgSMALL
  bCAPITAL LETTER V WITH TILDEbeSMALLbCAPITAL LETTER V WITH DOT BELOWbfSMALL
  bCAPITAL LETTER W WITH GRAVEbeSMALLbCAPITAL LETTER W WITH ACUTEbeSMALL
  bCAPITAL LETTER W WITH DIAERESISbeSMALLbCAPITAL LETTER W WITH DOT ABOVEbfSMALL
  bCAPITAL LETTER W WITH DOT BELOWbfSMALLbCAPITAL LETTER X WITH DOT ABOVEbfSMALL
  bCAPITAL LETTER X WITH DIAERESISbeSMALLbCAPITAL LETTER Y WITH DOT ABOVEbfSMALL
  bCAPITAL LETTER Z WITH CIRCUMFLEXbeSMALLbCAPITAL LETTER Z WITH DOT BELOWbfSMALL
  bbCAPITAL LETTER Z WITH LINEbfSMALLddHdT WITH DIAERESISdW WITH RING ABOVEddY
  dA WITH RIGHT HALF RINGdLONG S WITH DOT ABOVEgDIAGONAL STROKEgbHIGHbCAPITAL LETTER SHARP S
  bSMALL LETTER DELTAbCAPITAL LETTER A WITH DOT BELOWbfSMALLbCAPITAL LETTER A WITH HOOK ABOVEbfSMALL
  bCAPITAL LETTER A WITH CIRCUMFLEX AND ACUTEbgSMALLbCAPITAL LETTER A WITH CIRCUMFLEX AND GRAVE
  bgSMALLbCAPITAL LETTER A WITH CIRCUMFLEX AND HOOK ABOVEbhSMALL
  bCAPITAL LETTER A WITH CIRCUMFLEX AND TILDEbgSMALLbCAPITAL LETTER A WITH CIRCUMFLEX AND DOT BELOW
  bhSMALLbCAPITAL LETTER A WITH BREVE AND ACUTEbgSMALLbCAPITAL LETTER A WITH BREVE AND GRAVEbgSMALL
  bCAPITAL LETTER A WITH BREVE AND HOOK ABOVEbhSMALLbCAPITAL LETTER A WITH BREVE AND TILDEbgSMALL
  bCAPITAL LETTER A WITH BREVE AND DOT BELOWbhSMALLbcCAPITAL LETTER E WITHbfSMALL
  bCAPITAL LETTER E WITH HOOK ABOVEbfSMALLbCAPITAL LETTER E WITH TILDEbeSMALL
  bCAPITAL LETTER E WITH CIRCUMFLEX AND ACUTEbgSMALLbCAPITAL LETTER E WITH CIRCUMFLEX AND GRAVE
  bgSMALLbCAPITAL LETTER E WITH CIRCUMFLEX AND HOOK ABOVEbhSMALL
  bCAPITAL LETTER E WITH CIRCUMFLEX AND TILDEbgSMALLbCAPITAL LETTER E WITH CIRCUMFLEX AND DOT BELOW
  bhSMALLbCAPITAL LETTER I WITH HOOK ABOVEbfSMALLbCAPITAL LETTER I WITH DOT BELOWbfSMALL
  bdCAPITAL LETTER ObfSMALLbCAPITAL LETTER O WITH HOOK ABOVEbfSMALL
  bCAPITAL LETTER O WITH CIRCUMFLEX AND ACUTEbgSMALLbCAPITAL LETTER O WITH CIRCUMFLEX AND GRAVE
  bgSMALLbCAPITAL LETTER O WITH CIRCUMFLEX AND HOOK ABOVEbhSMALL
  bCAPITAL LETTER O WITH CIRCUMFLEX AND TILDEbgSMALLbCAPITAL LETTER O WITH CIRCUMFLEX AND DOT BELOW
  bhSMALLbCAPITAL LETTER O WITH HORN AND ACUTEbgSMALLbCAPITAL LETTER O WITH HORN AND GRAVEbgSMALL
  bCAPITAL LETTER O WITH HORN AND HOOK ABOVEbhSMALLbCAPITAL LETTER O WITH HORN AND TILDEbgSMALL
  bCAPITAL LETTER O WITH HORN AND DOT BELOWbhSMALLbcCAPITAL LETTER U WITHbfSMALL
  bCAPITAL LETTER U WITH HOOK ABOVEbfSMALLbCAPITAL LETTER U WITH HORN AND ACUTEbgSMALL
  bCAPITAL LETTER U WITH HORN AND GRAVEbgSMALLbCAPITAL LETTER U WITH HORN AND HOOK ABOVEbhSMALL
  bCAPITAL LETTER U WITH HORN AND TILDEbgSMALLbCAPITAL LETTER U WITH HORN AND DOT BELOWbhSMALL
  bCAPITAL LETTER Y WITH GRAVEbeSMALLbCAPITAL LETTER Y WITH DOT BELOWbfSMALL
  bCAPITAL LETTER Y WITH HOOK ABOVEbfSMALLbCAPITAL LETTER Y WITH TILDEbeSMALL
  bCAPITAL LETTER MIDDLE-WELSH LLbdSMALLbCAPITAL LETTER MIDDLE-WELSH VbdSMALL
  bCAPITAL LETTER Y WITH LOOPbeSMALLaGREEK SMALL LETTER ALPHA WITH PSILIfDASIAfPSILI AND VARIA
  fcDASIAfPSILI AND OXIAfcDASIAfPSILI AND PERISPOMENIfcDASIAbCAPITAL LETTER ALPHA WITH PSILIfDASIA
  fPSILI AND VARIAfcDASIAfPSILI AND OXIAfcDASIAfPSILI AND PERISPOMENIfcDASIA
  bSMALL LETTER EPSILON WITH PSILIfDASIAfPSILI AND VARIAfcDASIAfPSILI AND OXIAfcDASIA
  +1F18bCAPITAL LETTER EPSILON WITH PSILIfDASIAfPSILI AND VARIAfcDASIAfPSILI AND OXIAfcDASIA
  +1F20bSMALL LETTER ETA WITH PSILIfDASIAfPSILI AND VARIAfcDASIAfPSILI AND OXIAfcDASIA
  fPSILI AND PERISPOMENIfcDASIAbCAPITAL LETTER ETA WITH PSILIfDASIAfPSILI AND VARIAfcDASIA
  fPSILI AND OXIAfcDASIAfPSILI AND PERISPOMENIfcDASIAbSMALL LETTER IOTA WITH PSILIfDASIA
  fPSILI AND VARIAfcDASIAfPSILI AND OXIAfcDASIAfPSILI AND PERISPOMENIfcDASIA
  bCAPITAL LETTER IOTA WITH PSILIfDASIAfPSILI AND VARIAfcDASIAfPSILI AND OXIAfcDASIA
  fPSILI AND PERISPOMENIfcDASIAbSMALL LETTER OMICRON WITH PSILIfDASIAfPSILI AND VARIAfcDASIA
  fPSILI AND OXIAfcDASIA+1F48bCAPITAL LETTER OMICRON WITH PSILIfDASIAfPSILI AND VARIAfcDASIA
  fPSILI AND OXIAfcDASIA+1F50bSMALL LETTER UPSILON WITH PSILIfDASIAfPSILI AND VARIAfcDASIA
  fPSILI AND OXIAfcDASIAfPSILI AND PERISPOMENIfcDASIA+1F59bCAPITAL LETTER UPSILON WITH DASIA
  +1F5BgAND VARIA+1F5DhOXIA+1F5FhPERISPOMENIbSMALL LETTER OMEGA WITH PSILIfDASIAfPSILI AND VARIA
  fcDASIAfPSILI AND OXIAfcDASIAfPSILI AND PERISPOMENIfcDASIAbCAPITAL LETTER OMEGA WITH PSILIfDASIA
  fPSILI AND VARIAfcDASIAfPSILI AND OXIAfcDASIAfPSILI AND PERISPOMENIfcDASIA
  bSMALL LETTER ALPHA WITH VARIAfOXIAdEPSILON WITH VARIAfOXIAdETA WITH VARIAfOXIAdIOTA WITH VARIA
  fOXIAdOMICRON WITH VARIAfOXIAdUPSILON WITH VARIAfOXIAdOMEGA WITH VARIAfOXIA
  +1F80dALPHA WITH PSILI AND YPOGEGRAMMENIfcDASIAfcPSILI AND VARIAfeDASIAfcPSILI AND OXIAfeDASIA
  fcPSILI AND PERISPOMENIfeDASIAbCAPITAL LETTER ALPHA WITH PSILI AND PROSGEGRAMMENIfcDASIA
  fcPSILI AND VARIAfeDASIAfcPSILI AND OXIAfeDASIAfcPSILI AND PERISPOMENIfeDASIA
  bSMALL LETTER ETA WITH PSILI AND YPOGEGRAMMENIfcDASIAfcPSILI AND VARIAfeDASIAfcPSILI AND OXIA
  feDASIAfcPSILI AND PERISPOMENIfeDASIAbCAPITAL LETTER ETA WITH PSILI AND PROSGEGRAMMENIfcDASIA
  fcPSILI AND VARIAfeDASIAfcPSILI AND OXIAfeDASIAfcPSILI AND PERISPOMENIfeDASIA
  bSMALL LETTER OMEGA WITH PSILI AND YPOGEGRAMMENIfcDASIAfcPSILI AND VARIAfeDASIAfcPSILI AND OXIA
  feDASIAfcPSILI AND PERISPOMENIfeDASIAbCAPITAL LETTER OMEGA WITH PSILI AND PROSGEGRAMMENIfcDASIA
  fcPSILI AND VARIAfeDASIAfcPSILI AND OXIAfeDASIAfcPSILI AND PERISPOMENIfeDASIA
  bSMALL LETTER ALPHA WITH VRACHYfMACRONfVARIA AND YPOGEGRAMMENIfb+1FB4fbOXIA AND+1FB6fPERISPOMENI
  gAND YPOGEGRAMMENIbCAPITAL LETTER ALPHA WITH VRACHYfMACRONfVARIAfOXIAfPROSGEGRAMMENIbKORONIS
  bPROSGEGRAMMENIbPSILIbPERISPOMENIbbDIALYTIKA ANDbSMALL LETTER ETA WITH VARIA AND YPOGEGRAMMENIfb
  +1FC4fbOXIA AND+1FC6fPERISPOMENIgAND YPOGEGRAMMENIbCAPITAL LETTER EPSILON WITH VARIAfOXIA
  dETA WITH VARIAfOXIAfPROSGEGRAMMENIbPSILI AND VARIAdOXIAdPERISPOMENIbSMALL LETTER IOTA WITH VRACHY
  fMACRONfDIALYTIKA AND VARIAhOXIA+1FD6fPERISPOMENIfbDIALYTIKA ANDbCAPITAL LETTER IOTA WITH VRACHY
  fMACRONfVARIAfOXIA+1FDDbDASIA AND VARIAdOXIAdPERISPOMENIbSMALL LETTER UPSILON WITH VRACHYfMACRON
  fDIALYTIKA AND VARIAhOXIAdRHO WITH PSILIfDASIAdUPSILON WITH PERISPOMENIfbDIALYTIKA AND
  bCAPITAL LETTER UPSILON WITH VRACHYfMACRONfVARIAfOXIAdRHO WITH DASIAbDIALYTIKA AND VARIAdOXIA
  bVARIA+1FF2bSMALL LETTER OMEGA WITH VARIA AND YPOGEGRAMMENIfb+1FF4fbOXIA AND+1FF6fPERISPOMENI
  gAND YPOGEGRAMMENIbCAPITAL LETTER OMICRON WITH VARIAfOXIAdOMEGA WITH VARIAfOXIAfPROSGEGRAMMENI
  bOXIAbDASIA"

end RecordPattern.Text.CharName
