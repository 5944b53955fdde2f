namespace RecordPattern.Text.CharName

-- Names of the signs of notations, of pictures and of tags.
def notations : String :=
  "+1D000aBYZANTINE MUSICAL SYMBOL PSILIdDASEIAdPERISPOMENIdOXEIA EKFONITIKONeDIPLI
  dVAREIA EKFONITIKONeDIPLIdKATHISTIdSYRMATIKIdPARAKLITIKIdYPOKRISISeDIPLIdKREMASTI
  dAPESO EKFONITIKONdbEXOdTELEIAdKENTIMATAdAPOSTROFOSeDIPLIdSYNEVMAdTHITAdOLIGON ARCHAIONdbGORGON
  dPSILONdCHAMILONdVATHYdISON ARCHAIONdbKENTIMAdbKENTIMATAdSAXIMATAdPARICHONdSTAVROS APODEXIA
  dOXEIAI ARCHAIONdbVAREIAIdbAPODERMAdAPOTHEMAdKLASMAdREVMAdPIASMA ARCHAIONdTINAGMAdANATRICHISMA
  dSEISMAdSYNAGMA ARCHAIONeMETA STAVROUdOYRANISMA ARCHAIONdTHEMAdLEMOIdDYOdTRIAdTESSERAdKRATIMATA
  dAPESO EXO NEOdFTHORA ARCHAIONdIMIFTHORAdTROMIKON ARCHAIONdKATAVA TROMIKONdPELASTONdPSIFISTON
  dKONTEVMAdCHOREVMA ARCHAIONdRAPISMAdPARAKALESMA ARCHAIONdbPARAKLITIKIdICHADINdNANAdPETASMA
  dKONTEVMA ALLOdbTROMIKONdSTRAGGISMATAdGRONTHISMATAdISON NEOdbOLIGONdbOXEIAdPETASTIdKOUFISMA
  dPETASTOKOUFISMAdKRATIMOKOUFISMAdPELASTON NEOdKENTIMATA NEO ANOdcKENTIMAdYPSILIdAPOSTROFOS NEO
  dbAPOSTROFOI SYNDESMOSdYPORROIdKRATIMOYPORROONdELAFRONdCHAMILIdMIKRON ISONdVAREIA NEOdbPIASMA
  dbPSIFISTONdOMALONdANTIKENOMAdLYGISMAdPARAKLITIKI NEOdbPARAKALESMAdETERON PARAKALESMAdKYLISMA
  dANTIKENOKYLISMAdTROMIKON NEOdEKSTREPTONdSYNAGMA NEOdSYRMAdCHOREVMA NEOdEPEGERMAdSEISMA NEO
  dXIRON KLASMAdTROMIKOPSIFISTONdPSIFISTOLYGISMAdTROMIKOLYGISMAdTROMIKOPARAKALESMA
  dPSIFISTOPARAKALESMAdTROMIKOSYNAGMAdPSIFISTOSYNAGMAdGORGOSYNTHETONdARGOSYNTHETONdbETERON
  dOYRANISMA NEOdTHEMATISMOS ESOeEXOdTHEMA APLOUNdTHES KAI APOTHESdKATAVASMAdENDOFONONdYFEN KATOeANO
  dSTAVROSdKLASMA ANOdDIPLI ARCHAIONdbKRATIMAeALLOeNEOdbAPODERMAdAPLIdDIPLIdTRIPLIdTETRAPLIdKORONIS
  dLEIMMA ENOS CHRONOUeDYO CHRONONebTRIONebTESSARONeIMISEOS CHRONOUdGORGON NEO ANO
  ePARESTIGMENON ARISTERAfDEXIAdDIGORGONePARESTIGMENON ARISTERA KATOgANOfDEXIAdTRIGORGONdARGON
  dIMIDIARGONdDIARGONdAGOGI POLI ARGIeARGOTERIeARGIeMETRIAeMESIeGORGIeGORGOTERIePOLI GORGI
  dMARTYRIA PROTOS ICHOSecALLIebDEYTEROSecALLIebTRITOSeTRIFONIASeTETARTOS ICHOSfbLEGETOSec
  +1D0ABebPLAGIOSdISAKIA TELOUS ICHIMATOSdcAPOSTROFOIdFANEROSIS TETRAFONIASeMONOFONIASeDIFONIAS
  dMARTYRIA VARYS ICHOSebPROTOVARYSebPLAGIOS TETARTOSdGORTHMIKON N APLOUNfDIPLOUN
  dENARXIS KAI FTHORA VOUdIMIFONONdIMIFTHORONdFTHORA ARCHAION DEYTEROU ICHOUeDIATONIKI PAfNANA
  eNAOS ICHOSeDIATONIKI DIebSKLIRON DIATONONeDIATONIKI KEfZOfNI KATOgANOeMALAKON CHROMA DIFONIAS
  gMONOFONIASdFHTORA SKLIRON CHROMA VASISdFTHORA SKLIRON CHROMA SYNAFIeNENANOdCHROA ZYGOSeKLITON
  eSPATHIdFTHORA I YFESIS TETARTIMORIONeENARMONIOS ANTIFONIAdYFESIS TRITIMORIONdbDIESIS
  eTETARTIMORIONeAPLI DYO DODEKATAebMONOGRAMMOS TESSERAebDIGRAMMOS EXebTRIGRAMMOS OKTO
  dbYFESIS APLI DYOebMONOGRAMMOS TESSERAebDIGRAMMOS EXebTRIGRAMMOS OKTOdGENIKI DIESISeYFESIS
  dDIASTOLI APLI MIKRIfMEGALIeDIPLIeTHESEOSdbSIMANSISfDISIMOUfTRISIMOUfTETRASIMOUeARSEOSfDISIMOU
  fTRISIMOUfTETRASIMOUdDIGRAMMA GGdDIFTOGGOS OUdSTIGMAdARKTIKO PAeVOUeGAeDIeKEeZOeNI
  dKENTIMATA NEO MESOdcKENTIMAdKENTIMATA NEO KATOdcKENTIMAdbKLASMAdbGORGON NEO
  +1D100aMUSICAL SYMBOL SINGLE BARLINEcbDOUBLEcbFINALccREVERSEcbDASHEDcbSHORTcLEFT REPEAT SIGN
  ccRIGHTcREPEAT DOTScDAL SEGNOcDA CAPOcSEGNOcCODAcREPEATED FIGURE-1dFIGURE-2dFIGURE-3cFERMATAdBELOW
  cBREATH MARKcCAESURAcBRACEcBRACKETcONE-LINE STAFFcbTWO-LINEcbTHREE-LINEcbFOUR-LINEcbFIVE-LINE
  cbSIX-LINEcSIX-STRING FRETBOARDcbFOUR-STRINGcG CLEFeOTTAVA ALTAfBASSAcC CLEFcbFeOTTAVA ALTAfBASSA
  cDRUM CLEF-1dCLEF-2+1D129cMULTIPLE MEASURE RESTcDOUBLE SHARPdFLATcFLAT UPdDOWNcNATURAL UPdDOWN
  cSHARP UPdDOWNcQUARTER TONE SHARPeFLATcCOMMON TIMEcbCUTcOTTAVA ALTAdBASSAcQUINDICESIMA ALTAdBASSA
  cMULTI RESTcbWHOLEcbHALFcbQUARTERcbEIGHTHcbSIXTEENTHcbTHIRTY-SECONDcbSIXTY-FOURTH
  cbONE HUNDRED TWENTY-EIGHTHcX NOTEHEADcbPLUScbCIRCLE XcSQUARE NOTEHEAD WHITEeBLACK
  cTRIANGLE NOTEHEAD UP WHITEfBLACKeLEFT WHITEfBLACKeRIGHT WHITEfBLACKeDOWN WHITEfBLACK
  eUP RIGHT WHITEgBLACKcMOON NOTEHEAD WHITEeBLACKcTRIANGLE-ROUND NOTEHEAD DOWN WHITEfBLACK
  cPARENTHESIS NOTEHEADcbVOIDcNOTEHEAD BLACKcNULL NOTEHEADcCLUSTER NOTEHEAD WHITEeBLACKcBREVE
  cWHOLE NOTEcbHALFcbQUARTERcbEIGHTHcbSIXTEENTHcbTHIRTY-SECONDcbSIXTY-FOURTH
  cbONE HUNDRED TWENTY-EIGHTHcCOMBINING STEMdbSPRECHGESANGdTREMOLO-1dTREMOLO-2dTREMOLO-3
  cFINGERED TREMOLO-1dTREMOLO-2dTREMOLO-3cCOMBINING AUGMENTATION DOTdFLAG-1dFLAG-2dFLAG-3dFLAG-4
  dFLAG-5cBEGIN BEAMcbENDcBEGIN TIEcbENDcBEGIN SLURcbENDcBEGIN PHRASEcbENDcCOMBINING ACCENTdSTACCATO
  dTENUTOdSTACCATISSIMOdMARCATOdMARCATO-STACCATOdACCENT-STACCATOdLOUREcARPEGGIATO UPdDOWN
  cCOMBINING DOITdRIPdFLIPdSMEARdBENDdDOUBLE TONGUEdbTRIPLEcRINFORZANDOcSUBITOcZcPIANOcMEZZOcFORTE
  cCRESCENDOcDECRESCENDOcGRACE NOTE SLASHebNOcTRcTURNcbINVERTEDcTURN SLASHdUPcORNAMENT STROKE-1
  dSTROKE-2dSTROKE-3dSTROKE-4dSTROKE-5dSTROKE-6dSTROKE-7dSTROKE-8dSTROKE-9dSTROKE-10dSTROKE-11
  cHAUPTSTIMMEcNEBENSTIMMEcEND OF STIMMEcDEGREE SLASHcCOMBINING DOWN BOWdbUPdHARMONICdSNAP PIZZICATO
  cPEDAL MARKdbUPcbHALF PEDALcGLISSANDO UPdDOWNcWITH FINGERNAILScDAMPdALLcMAXIMAcLONGAcBREVIS
  cSEMIBREVIS WHITEdBLACKcMINIMAdBLACKcSEMIMINIMA WHITEdBLACKcFUSA WHITEdBLACKcLONGA PERFECTA REST
  dbIMPERFECTAcbBREVIScbSEMIBREVIScbMINIMAcbSEMIMINIMAcTEMPUS PERFECTUM CUM PROLATIONE PERFECTA
  gIMPERFECTAgPERFECTA DIMINUTION-1dIMPERFECTUM CUM PROLATIONE PERFECTAgIMPERFECTAhDIMINUTION-1
  hDIMINUTION-2hDIMINUTION-3cCROIXcGREGORIAN C CLEFdbFcSQUARE BcVIRGAcPODATUScCLIVIScSCANDICUS
  cCLIMACUScTORCULUScPORRECTUSdFLEXUScbSCANDICUScTORCULUS RESUPINUScPES SUBPUNCTIScKIEVAN C CLEF
  dEND OF PIECEdFINAL NOTEdRECITATIVE MARKdWHOLE NOTEdbHALFdQUARTER NOTE STEM DOWNgUP
  dEIGHTH NOTE STEM DOWNgUPdFLAT SIGNcSORIcKORON+1D200aGREEK VOCAL NOTATION SYMBOL-1dSYMBOL-2
  dSYMBOL-3dSYMBOL-4dSYMBOL-5dSYMBOL-6dSYMBOL-7dSYMBOL-8dSYMBOL-9dSYMBOL-10dSYMBOL-11dSYMBOL-12
  dSYMBOL-13dSYMBOL-14dSYMBOL-15dSYMBOL-16dSYMBOL-17dSYMBOL-18dSYMBOL-19dSYMBOL-20dSYMBOL-21
  dSYMBOL-22dSYMBOL-23dSYMBOL-24dSYMBOL-50dSYMBOL-51dSYMBOL-52dSYMBOL-53dSYMBOL-54
  bINSTRUMENTAL NOTATION SYMBOL-1dSYMBOL-2dSYMBOL-4dSYMBOL-5dSYMBOL-7dSYMBOL-8dSYMBOL-11dSYMBOL-12
  dSYMBOL-13dSYMBOL-14dSYMBOL-17dSYMBOL-18dSYMBOL-19dSYMBOL-23dSYMBOL-24dSYMBOL-25dSYMBOL-26
  dSYMBOL-27dSYMBOL-29dSYMBOL-30dSYMBOL-32dSYMBOL-36dSYMBOL-37dSYMBOL-38dSYMBOL-39dSYMBOL-40
  dSYMBOL-42dSYMBOL-43dSYMBOL-45dSYMBOL-47dSYMBOL-48dSYMBOL-49dSYMBOL-50dSYMBOL-51dSYMBOL-52
  dSYMBOL-53dSYMBOL-54aCOMBINING GREEK MUSICAL TRISEMEdTETRASEMEdPENTASEMEaGREEK MUSICAL LEIMMA
  +1D2E0aMAYAN NUMERAL ZEROcONEcTWOcTHREEcFOURcFIVEcSIXcSEVENcEIGHTcNINEcTENcELEVENcTWELVEcTHIRTEEN
  cFOURTEENcFIFTEENcSIXTEENcSEVENTEENcEIGHTEENcNINETEEN+1D300aMONOGRAM FOR EARTH
  abDIGRAM FOR HEAVENLYcbHUMANcEARTHLY HEAVENdHUMANcEARTHaTETRAGRAM FOR CENTREcFULL CIRCLEcMIRED
  cBARRIERcKEEPING SMALLcCONTRARIETYcASCENTcOPPOSITIONcBRANCHING OUTcDEFECTIVENESS OR DISTORTION
  cDIVERGENCEcYOUTHFULNESScINCREASEcPENETRATIONcREACHcCONTACTcHOLDING BACKcWAITINGcFOLLOWINGcADVANCE
  cRELEASEcRESISTANCEcEASEcJOYcCONTENTIONcENDEAVOURcDUTIEScCHANGEcDECISIVENESScBOLD RESOLUTION
  cPACKINGcLEGIONcCLOSENESScKINSHIPcGATHERINGcSTRENGTHcPURITYcFULLNESScRESIDENCEcLAW OR MODEL
  cRESPONSEcGOING TO MEETcENCOUNTERScSTOVEcGREATNESScENLARGEMENTcPATTERNcRITUALcFLIGHT
  cVASTNESS OR WASTINGcCONSTANCYcMEASUREcETERNITYcUNITYcDIMINISHMENTcCLOSED MOUTHcGUARDEDNESS
  cGATHERING INcMASSINGcACCUMULATIONcEMBELLISHMENTcDOUBTcWATCHcSINKINGcINNERcDEPARTUREcDARKENING
  cDIMMINGcEXHAUSTIONcSEVERANCEcSTOPPAGEcHARDNESScCOMPLETIONcCLOSUREcFAILUREcAGGRAVATIONcCOMPLIANCE
  cON THE VERGEcDIFFICULTIEScLABOURINGcFOSTERING+1D360aCOUNTING ROD UNIT DIGIT ONEeTWOeTHREEeFOUR
  eFIVEeSIXeSEVENeEIGHTeNINEcTENS DIGIT ONEeTWOeTHREEeFOUReFIVEeSIXeSEVENeEIGHTeNINE
  aIDEOGRAPHIC TALLY MARK ONEdTWOdTHREEdFOURdFIVEaTALLY MARK ONEcFIVE
  +1D400aMATHEMATICAL BOLD CAPITAL AdBdCdDdEdFdGdHdIdJdKdLdMdNdOdPdQdRdSdTdUdVdWdXdYdZcSMALL AdBdCdD
  dEdFdGdHdIdJdKdLdMdNdOdPdQdRdSdTdUdVdWdXdYdZbITALIC CAPITAL AdBdCdDdEdFdGdHdIdJdKdLdMdNdOdPdQdRdS
  dTdUdVdWdXdYdZcSMALL AdBdCdDdEdFdG+1D456dIdJdKdLdMdNdOdPdQdRdSdTdUdVdWdXdYdZbBOLD ITALIC CAPITAL A
  eBeCeDeEeFeGeHeIeJeKeLeMeNeOePeQeReSeTeUeVeWeXeYeZdSMALL AeBeCeDeEeFeGeHeIeJeKeLeMeNeOePeQeReSeTeU
  eVeWeXeYeZbSCRIPT CAPITAL A+1D49EdCdD+1D4A2dG+1D4A5dJdK+1D4A9dNdOdPdQ+1D4AEdSdTdUdVdWdXdYdZ
  cSMALL AdBdCdD+1D4BBdF+1D4BDdHdIdJdKdLdMdN+1D4C5dPdQdRdSdTdUdVdWdXdYdZbBOLD SCRIPT CAPITAL AeBeCeD
  eEeFeGeHeIeJeKeLeMeNeOePeQeReSeTeUeVeWeXeYeZdSMALL AeBeCeDeEeFeGeHeIeJeKeLeMeNeOePeQeReSeTeUeVeWeX
  eYeZbFRAKTUR CAPITAL AdB+1D507dDdEdFdG+1D50DdJdKdLdMdNdOdPdQ+1D516dSdTdUdVdWdXdY+1D51EcSMALL AdBdC
  dDdEdFdGdHdIdJdKdLdMdNdOdPdQdRdSdTdUdVdWdXdYdZbDOUBLE-STRUCK CAPITAL AdB+1D53BdDdEdFdG+1D540dIdJdK
  dLdM+1D546dO+1D54AdSdTdUdVdWdXdY+1D552cSMALL AdBdCdDdEdFdGdHdIdJdKdLdMdNdOdPdQdRdSdTdUdVdWdXdYdZ
  bBOLD FRAKTUR CAPITAL AeBeCeDeEeFeGeHeIeJeKeLeMeNeOePeQeReSeTeUeVeWeXeYeZdSMALL AeBeCeDeEeFeGeHeI
  eJeKeLeMeNeOePeQeReSeTeUeVeWeXeYeZbSANS-SERIF CAPITAL AdBdCdDdEdFdGdHdIdJdKdLdMdNdOdPdQdRdSdTdUdV
  dWdXdYdZcSMALL AdBdCdDdEdFdGdHdIdJdKdLdMdNdOdPdQdRdSdTdUdVdWdXdYdZcBOLD CAPITAL AeBeCeDeEeFeGeHeI
  eJeKeLeMeNeOePeQeReSeTeUeVeWeXeYeZdSMALL AeBeCeDeEeFeGeHeIeJeKeLeMeNeOePeQeReSeTeUeVeWeXeYeZ
  cITALIC CAPITAL AeBeCeDeEeFeGeHeIeJeKeLeMeNeOePeQeReSeTeUeVeWeXeYeZdSMALL AeBeCeDeEeFeGeHeIeJeKeL
  eMeNeOePeQeReSeTeUeVeWeXeYeZcBOLD ITALIC CAPITAL AfBfCfDfEfFfGfHfIfJfKfLfMfNfOfPfQfRfSfTfUfVfWfXfY
  fZeSMALL AfBfCfDfEfFfGfHfIfJfKfLfMfNfOfPfQfRfSfTfUfVfWfXfYfZbMONOSPACE CAPITAL AdBdCdDdEdFdGdHdIdJ
  dKdLdMdNdOdPdQdRdSdTdUdVdWdXdYdZcSMALL AdBdCdDdEdFdGdHdIdJdKdLdMdNdOdPdQdRdSdTdUdVdWdXdYdZ
  bITALIC SMALL DOTLESS IeJ+1D6A8bBOLD CAPITAL ALPHAdBETAdGAMMAdDELTAdEPSILONdZETAdETAdTHETAdIOTA
  dKAPPAdLAMDAdMUdNUdXIdOMICRONdPIdRHOdTHETA SYMBOLdSIGMAdTAUdUPSILONdPHIdCHIdPSIdOMEGAcNABLA
  cSMALL ALPHAdBETAdGAMMAdDELTAdEPSILONdZETAdETAdTHETAdIOTAdKAPPAdLAMDAdMUdNUdXIdOMICRONdPIdRHO
  dFINAL SIGMAdb+1D6D5dTAUdUPSILONdPHIdCHIdPSIdOMEGAcPARTIAL DIFFERENTIALcEPSILON SYMBOLcbTHETA
  cbKAPPAcbPHIcbRHOcbPIbITALIC CAPITAL ALPHAdBETAdGAMMAdDELTAdEPSILONdZETAdETAdTHETAdIOTAdKAPPA
  dLAMDAdMUdNUdXIdOMICRONdPIdRHOdTHETA SYMBOLdSIGMAdTAUdUPSILONdPHIdCHIdPSIdOMEGAcNABLAcSMALL ALPHA
  dBETAdGAMMAdDELTAdEPSILONdZETAdETAdTHETAdIOTAdKAPPAdLAMDAdMUdNUdXIdOMICRONdPIdRHOdFINAL SIGMAdb
  +1D70FdTAUdUPSILONdPHIdCHIdPSIdOMEGAcPARTIAL DIFFERENTIALcEPSILON SYMBOLcbTHETAcbKAPPAcbPHIcbRHO
  cbPIbBOLD ITALIC CAPITAL ALPHAeBETAeGAMMAeDELTAeEPSILONeZETAeETAeTHETAeIOTAeKAPPAeLAMDAeMUeNUeXI
  eOMICRONePIeRHOeTHETA SYMBOLeSIGMAeTAUeUPSILONePHIeCHIePSIeOMEGAdNABLAdSMALL ALPHAeBETAeGAMMA
  eDELTAeEPSILONeZETAeETAeTHETAeIOTAeKAPPAeLAMDAeMUeNUeXIeOMICRONePIeRHOeFINAL SIGMAeb+1D749eTAU
  eUPSILONePHIeCHIePSIeOMEGAdPARTIAL DIFFERENTIALdEPSILON SYMBOLdbTHETAdbKAPPAdbPHIdbRHOdbPI
  bSANS-SERIF BOLD CAPITAL ALPHAeBETAeGAMMAeDELTAeEPSILONeZETAeETAeTHETAeIOTAeKAPPAeLAMDAeMUeNUeXI
  eOMICRONePIeRHOeTHETA SYMBOLeSIGMAeTAUeUPSILONePHIeCHIePSIeOMEGAdNABLAdSMALL ALPHAeBETAeGAMMA
  eDELTAeEPSILONeZETAeETAeTHETAeIOTAeKAPPAeLAMDAeMUeNUeXIeOMICRONePIeRHOeFINAL SIGMAeb+1D783eTAU
  eUPSILONePHIeCHIePSIeOMEGAdPARTIAL DIFFERENTIALdEPSILON SYMBOLdbTHETAdbKAPPAdbPHIdbRHOdbPI
  dITALIC CAPITAL ALPHAfBETAfGAMMAfDELTAfEPSILONfZETAfETAfTHETAfIOTAfKAPPAfLAMDAfMUfNUfXIfOMICRONfPI
  fRHOfTHETA SYMBOLfSIGMAfTAUfUPSILONfPHIfCHIfPSIfOMEGAeNABLAeSMALL ALPHAfBETAfGAMMAfDELTAfEPSILON
  fZETAfETAfTHETAfIOTAfKAPPAfLAMDAfMUfNUfXIfOMICRONfPIfRHOfFINAL SIGMAfb+1D7BDfTAUfUPSILONfPHIfCHI
  fPSIfOMEGAePARTIAL DIFFERENTIALeEPSILON SYMBOLebTHETAebKAPPAebPHIebRHOebPIbBOLD CAPITAL DIGAMMA
  cbSMALL+1D7CEcDIGIT ZEROdONEdTWOdTHREEdFOURdFIVEdSIXdSEVENdEIGHTdNINEbDOUBLE-STRUCK DIGIT ZEROdONE
  dTWOdTHREEdFOURdFIVEdSIXdSEVENdEIGHTdNINEbSANS-SERIF DIGIT ZEROdONEdTWOdTHREEdFOURdFIVEdSIXdSEVEN
  dEIGHTdNINEcBOLD DIGIT ZEROeONEeTWOeTHREEeFOUReFIVEeSIXeSEVENeEIGHTeNINEbMONOSPACE DIGIT ZEROdONE
  dTWOdTHREEdFOURdFIVEdSIXdSEVENdEIGHTdNINEaSIGNWRITING HAND-FIST INDEXbbHAND-CIRCLEbbHAND-CUP
  bbHAND-OVALbbHAND-HINGEbbHAND-ANGLEbHAND-FIST INDEX BENTbcHAND-CIRCLEbcHAND-FIST THUMB UNDER
  cINDEX RAISED KNUCKLEdCUPPEDdHINGEDeLOWbHAND-CIRCLE INDEX HINGEbHAND-FIST INDEX MIDDLE
  bcHAND-CIRCLEbHAND-FIST INDEX MIDDLE BENTeRAISED KNUCKLESeHINGEDdcUPdHINGED MIDDLE UP
  dMIDDLE CONJOINEDfINDEX BENTfbMIDDLEfCUPPEDfHINGEDeCROSSEDbdHAND-CIRCLE
  bHAND-FIST MIDDLE BENT OVER INDEXcINDEX BENT OVER MIDDLEdMIDDLE THUMBbdHAND-CIRCLE
  bHAND-FIST INDEX MIDDLE STRAIGHT THUMB BENTeBENT THUMB STRAIGHTeTHUMB BENT
  eHINGED SPREAD THUMB SIDEdcUP MIDDLE HINGEDhCONJOINEDdHINGED MIDDLE UP THUMB SIDE
  dMIDDLE UP SPREAD THUMB FORWARDeTHUMB CUPPEDfCIRCLEDfHOOKEDfHINGED
  cTHUMB BETWEEN INDEX MIDDLE STRAIGHTcINDEX MIDDLE CONJOINED THUMB SIDEhCONJOINEDhBENT
  cMIDDLE THUMB HOOKED INDEX UPcbINDEX THUMB HOOKED MIDDLEdMIDDLE CONJOINED HINGED THUMB SIDE
  ecCROSSEDeCONJOINED THUMB FORWARDfcCUPPEDcMIDDLE THUMB CUPPED INDEX UPcbINDEX THUMB CUPPED MIDDLE
  cbMIDDLE THUMB CIRCLED INDEXgHINGEDcINDEX THUMB ANGLED OUT MIDDLE UPfcINecCIRCLED
  dMIDDLE THUMB CONJOINED HINGEDfANGLED OUTg+1D840cMIDDLE THUMB ANGLED OUT INDEX UPhCROSSEDfINDEX UP
  cINDEX THUMB HOOKED MIDDLE HINGEDbHAND-FLAT FOUR FINGERSeBENTeHINGEDeCONJOINEDfSPLIT
  bHAND-CLAW FOUR FINGERS CONJOINEDbHAND-FIST FOUR FINGERS CONJOINED BENT
  bHAND-HINGE FOUR FINGERS CONJOINEDbHAND-FLAT FIVE FINGERS SPREADcdHEEL
  cFIVE FINGERS SPREAD FOUR BENTcfHEELcbFIVE FINGERS SPREADceHEELcFIVE FINGERS SPREAD THUMB FORWARD
  bHAND-CUP FIVE FINGERS SPREADfOPENbeHAND-HINGEbHAND-OVAL FIVE FINGERS SPREAD
  bHAND-FLAT FIVE FINGERS SPREAD HINGEDgTHUMB SIDEgNO THUMBc+1D85BcBETWEEN PALM FACINGScHEEL
  cTHUMB SIDEccHEELcTHUMB BENTdFORWARDcSPLIT INDEX THUMB SIDEdCENTREeTHUMB SIDEgBENTdLITTLE
  bHAND-CLAWcTHUMB SIDEcNO THUMBcTHUMB FORWARDbHAND-HOOK CURLICUEc+1D86CbHAND-CUP OPENc
  +1D86EcOPEN THUMB SIDEcc+1D870cOPEN NO THUMBcc+1D872cOPEN THUMB FORWARDcc+1D874bHAND-CURLICUE OPEN
  c+1D876bHAND-CIRCLEbHAND-OVALcTHUMB SIDEcNO THUMBcTHUMB FORWARDbHAND-HINGE OPENdTHUMB FORWARDc
  +1D87EcSMALLcOPEN THUMB SIDEcc+1D881cOPEN NO THUMBcc+1D883cTHUMB SIDE TOUCHING INDEX
  dBETWEEN MIDDLE RINGbHAND-ANGLEbHAND-FIST INDEX MIDDLE RINGbdHAND-CIRCLEbdHAND-HINGEbdHAND-ANGLE
  bHAND-HINGE LITTLEbHAND-FIST INDEX MIDDLE RING BENTfCONJOINEDbeHAND-HINGEbHAND-FIST LITTLE DOWN
  eRIPPLE STRAIGHTfCURVEDeOTHERS CIRCLEDdUPccTHUMB UNDERbcHAND-CIRCLEbcHAND-OVALbcHAND-ANGLE
  bHAND-FIST LITTLE RAISED KNUCKLEdBENTdTOUCHES THUMBdb+1D89BbcHAND-HINGEbbHAND-FIST LITTLE INDEX
  bdHAND-HINGEbHAND-ANGLE LITTLE INDEX THUMB INDEX THUMB OUTh+1D8A0bHAND-FIST LITTLE INDEX
  bcHAND-CIRCLEbcHAND-HINGEbcHAND-ANGLEbHAND-FIST INDEX MIDDLE LITTLEbdHAND-CIRCLEbdHAND-HINGEcRING
  bHAND-ANGLE INDEX MIDDLE LITTLEbbHAND-FIST INDEX MIDDLE CROSSbeHAND-CIRCLEbHAND-FIST RING DOWN
  bHAND-HINGE RING DOWN INDEX THUMB HOOK MIDDLEbHAND-ANGLE RING DOWN MIDDLE THUMB INDEX CROSS
  bHAND-FIST RING UPdRAISED KNUCKLEdLITTLEbcHAND-CIRCLEbcHAND-OVALbcHAND-ANGLEbHAND-FIST RING MIDDLE
  eCONJOINEDeRAISED KNUCKLESdINDEXdTHUMBbcHAND-HOOKbHAND-FIST INDEX RING LITTLEbdHAND-CIRCLE
  bHAND-CURLICUE INDEX RING LITTLE ONbHAND-HOOK INDEX RING LITTLE OUTfINfUNDER
  bHAND-CUP INDEX RING LITTLEbdHAND-HINGEbHAND-ANGLE INDEX RING LITTLE OUTf
  +1D8C4bHAND-FIST MIDDLE DOWNbHAND-HINGE MIDDLEbHAND-FIST MIDDLE UPbcHAND-CIRCLE
  bHAND-FIST MIDDLE RAISED KNUCKLEdUP THUMB SIDEbHAND-HOOK MIDDLE THUMB
  bHAND-FIST MIDDLE THUMB LITTLEdb+1D8CDdbRINGbdHAND-CIRCLEbHAND-CURLICUE MIDDLE RING LITTLE ON
  bHAND-CUP MIDDLE RING LITTLEbdHAND-HINGEbHAND-ANGLE MIDDLE RING LITTLE OUTfINf
  +1D8D5bHAND-CIRCLE MIDDLE RING LITTLE BENTbHAND-CLAW MIDDLE RING LITTLE CONJOINEDgSIDE
  bHAND-HOOK MIDDLE RING LITTLE CONJOINED OUTgINg+1D8DBbHAND-HINGE INDEX HINGED
  bHAND-FIST INDEX THUMB SIDEbdHAND-HINGEbHAND-FIST INDEX THUMB SIDE THUMB DIAGONALgCONJOINEDgBENT
  fbINDEXfbBOTHfINDEX HINGEeFORWARD INDEX STRAIGHTgBENTeHOOKeCURLICUEeCURVE THUMB INSIDEbfHAND-CLAW
  bHAND-FIST INDEX THUMB CURVE THUMB UNDEReCIRCLEbHAND-CUP INDEX THUMBeOPENbdHAND-HINGEeLARGEe
  +1D8F1eSMALLbHAND-ANGLE INDEX THUMB OUTeINe+1D8F5bbHAND-FISTdHEELdSIDE DIAGONALeCONJOINEDeBENT
  dFORWARDdBETWEEN INDEX MIDDLEeMIDDLE RINGeRING LITTLEdUNDER TWO FINGERSdcOVERdbUNDER THREEebFOUR
  dOVER FOUR RAISED KNUCKLESc+1D904cHEELbTOUCH SINGLEcMULTIPLEcBETWEENbGRASP SINGLEcMULTIPLEcBETWEEN
  bSTRIKE SINGLEcMULTIPLEcBETWEENbBRUSH SINGLEcMULTIPLEcBETWEENbRUB SINGLEcMULTIPLEcBETWEEN
  bSURFACE SYMBOLScBETWEENbSQUEEZE LARGE SINGLEcbSMALLcLARGE MULTIPLEcbSMALLcSEQUENTIAL
  bFLICK LARGE SINGLEcbSMALLcLARGE MULTIPLEcbSMALLcSEQUENTIALbSQUEEZE FLICK ALTERNATING
  bMOVEMENT-HINGE UP DOWN LARGEeSMALLdSEQUENTIALcbDOWNcUP DOWN ALTERNATING LARGEfSMALL
  cSIDE TO SIDE SCISSORSbMOVEMENT-WALLPLANE FINGER CONTACTbcMOVEMENT-FLOORPLANE
  bMOVEMENT-WALLPLANE SINGLE STRAIGHT SMALLeMEDIUMeLARGEeLARGESTdWRIST FLEXcDOUBLE STRAIGHT
  dWRIST FLEXdALTERNATINGeWRIST FLEXcCROSScTRIPLE STRAIGHT MOVEMENTdWRIST FLEXdALTERNATING
  eWRIST FLEXcBEND SMALLdMEDIUMdLARGEcCORNER SMALLdMEDIUMdLARGEdROTATIONcCHECK SMALLdMEDIUMdLARGE
  cBOX SMALLdMEDIUMdLARGEcZIGZAG SMALLdMEDIUMdLARGEcPEAKS SMALLdMEDIUMdLARGE
  bTRAVEL-WALLPLANE ROTATION-WALLPLANE SINGLEdDOUBLEdALTERNATINGcROTATION-FLOORPLANE SINGLEdDOUBLE
  dALTERNATINGcSHAKINGcARM SPIRAL SINGLEeDOUBLEeTRIPLEbMOVEMENT-DIAGONAL AWAY SMALLdMEDIUMdLARGE
  dLARGESTcTOWARDS SMALLdMEDIUMdLARGEdLARGESTcBETWEEN AWAY SMALLeMEDIUMeLARGEeLARGESTdTOWARDS SMALL
  eMEDIUMeLARGEeLARGESTbMOVEMENT-FLOORPLANE SINGLE STRAIGHT SMALLeMEDIUMeLARGEeLARGESTdWRIST FLEX
  cDOUBLE STRAIGHTdWRIST FLEXdALTERNATINGeWRIST FLEXcCROSScTRIPLE STRAIGHT MOVEMENTdWRIST FLEX
  dALTERNATING MOVEMENTeWRIST FLEXcBENDcCORNER SMALLdMEDIUMdLARGEcCHECKcBOX SMALLdMEDIUMdLARGE
  cZIGZAG SMALLdMEDIUMdLARGEcPEAKS SMALLdMEDIUMdLARGEbTRAVEL-FLOORPLANE ROTATION-FLOORPLANE SINGLE
  dDOUBLEdALTERNATINGcROTATION-WALLPLANE SINGLEdDOUBLEdALTERNATINGcSHAKING
  bMOVEMENT-WALLPLANE CURVE QUARTER SMALLeMEDIUMeLARGEeLARGESTdHALF-CIRCLE SMALLeMEDIUMeLARGE
  eLARGESTdTHREE-QUARTER CIRCLE SMALLfMEDIUMcHUMP SMALLdMEDIUMdLARGEcLOOP SMALLdMEDIUMdLARGE
  dSMALL DOUBLEcWAVE CURVE DOUBLE SMALLfMEDIUMfLARGEeTRIPLE SMALLfMEDIUMfLARGEcCURVE THEN STRAIGHT
  cCURVED CROSS SMALLeMEDIUMbROTATION-WALLPLANE SINGLEcDOUBLEcALTERNATEbMOVEMENT-WALLPLANE SHAKING
  cCURVE HITTING FRONT WALLcdHUMPcdLOOPcdWAVEbdROTATION-WALLPLANE SINGLEcdDOUBLEcdALTERNATING
  bMOVEMENT-WALLPLANE CURVE HITTING CHESTccHUMPccLOOPccWAVEbcROTATION-WALLPLANE SINGLEccDOUBLE
  ccALTERNATINGbMOVEMENT-WALLPLANE WAVE DIAGONAL PATH SMALLfMEDIUMfLARGE
  bMOVEMENT-FLOORPLANE CURVE HITTING CEILING SMALLfLARGEcHUMP HITTING CEILING SMALL DOUBLEfbLARGE
  fSMALL TRIPLEfbLARGEcLOOP HITTING CEILING SMALL SINGLEfbLARGEfSMALL DOUBLEfbLARGE
  cWAVE HITTING CEILING SMALLfLARGEbROTATION-FLOORPLANE SINGLE HITTING CEILINGccDOUBLEccALTERNATING
  bMOVEMENT-FLOORPLANE CURVE HITTING FLOOR SMALLfLARGEcHUMP HITTING FLOOR SMALL DOUBLEfbLARGE
  fTRIPLE SMALL TRIPLEgbLARGEcLOOP HITTING FLOOR SMALL SINGLEfbLARGEfSMALL DOUBLEfbLARGE
  cWAVE HITTING FLOOR SMALLfLARGEbROTATION-FLOORPLANE SINGLE HITTING FLOORccDOUBLEccALTERNATING
  bMOVEMENT-FLOORPLANE CURVE SMALLdMEDIUMdLARGEdLARGESTdCOMBINEDcHUMP SMALLcbLOOPcWAVE SNAKEdSMALL
  dLARGEbROTATION-FLOORPLANE SINGLEcDOUBLEcALTERNATINGbMOVEMENT-FLOORPLANE SHAKING PARALLEL
  bMOVEMENT-WALLPLANE ARM CIRCLE SMALL SINGLEebMEDIUMeSMALL DOUBLEebMEDIUM
  bMOVEMENT-FLOORPLANE ARM CIRCLE HITTING WALL SMALL SINGLEgbMEDIUMgbLARGEgSMALL DOUBLEgbMEDIUM
  gbLARGEbMOVEMENT-WALLPLANE WRIST CIRCLE FRONT SINGLEfDOUBLE
  bMOVEMENT-FLOORPLANE WRIST CIRCLE HITTING WALL SINGLEgDOUBLE
  bMOVEMENT-WALLPLANE FINGER CIRCLES SINGLEeDOUBLE
  bMOVEMENT-FLOORPLANE FINGER CIRCLES HITTING WALL SINGLEgDOUBLEbDYNAMIC ARROWHEAD SMALLdLARGEcFAST
  cSLOWcTENSEcRELAXEDcSIMULTANEOUSdALTERNATINGcEVERY OTHER TIMEcGRADUALbHEADcRIM
  cMOVEMENT-WALLPLANE STRAIGHTdTILTcMOVEMENT-FLOORPLANE STRAIGHTcMOVEMENT-WALLPLANE CURVE
  cbMOVEMENT-FLOORPLANEcMOVEMENT CIRCLEbFACE DIRECTION POSITION NOSE FORWARD TILTINGfUP OR DOWN
  iTILTINGbEYEBROWS STRAIGHT UPdNEUTRALdDOWNbbDREAMY EYEBROWS NEUTRALdDOWN NEUTRALdbUPdNEUTRAL UP
  bFOREHEAD NEUTRALcCONTACTcWRINKLEDbEYES OPENcSQUEEZEDcCLOSEDbEYE BLINK SINGLEdMULTIPLE
  bEYES HALF OPENcbWIDEcHALF CLOSEDcWIDENING MOVEMENTbEYE WINKbEYELASHES UPcDOWNcFLUTTERING
  bEYEGAZE-WALLPLANE STRAIGHTdDOUBLEdALTERNATINGbEYEGAZE-FLOORPLANE STRAIGHTdDOUBLEdALTERNATING
  bEYEGAZE-WALLPLANE CURVEDbbEYEGAZE-FLOORPLANEbEYEGAZE-WALLPLANE CIRCLINGbCHEEKS PUFFEDcNEUTRAL
  cSUCKEDbTENSE CHEEKS HIGHdMIDDLEdLOWbEARSbNOSE NEUTRALcCONTACTcWRINKLEScWIGGLESbAIR BLOWING OUT
  cSUCKING INcBLOW SMALL ROTATIONSccSUCKbBREATH INHALEcEXHALEbMOUTH CLOSED NEUTRALdFORWARDdCONTACT
  cSMILEdWRINKLEDdOPENcFROWNdWRINKLEDdOPENcOPEN CIRCLEdFORWARDdWRINKLEDdOVALeWRINKLEDeYAWNdRECTANGLE
  eWRINKLEDeYAWNcKISSdFORWARDdWRINKLEDcTENSEdFORWARDdSUCKEDbLIPS PRESSED TOGETHER
  bLIP LOWER OVER UPPERcUPPER OVER LOWERbMOUTH CORNERScWRINKLES SINGLEdDOUBLE
  bTONGUE STICKING OUT FARcLICKING LIPScbTIP BETWEENdTOUCHING INSIDE MOUTHcINSIDE MOUTH RELAXED
  cMOVES AGAINST CHEEKcCENTRE STICKING OUTdINSIDE MOUTHbTEETHcMOVEMENTcON TONGUEeMOVEMENTdLIPS
  eMOVEMENTcBITE LIPSbMOVEMENT-WALLPLANE JAWbbMOVEMENT-FLOORPLANEbNECKbHAIRbEXCITEMENT
  bSHOULDER HIP SPINEdPOSITIONSbWALLPLANE SHOULDER HIP MOVEbdFLOORPLANEbSHOULDER TILTING FROM WAIST
  bTORSO-WALLPLANE STRAIGHT STRETCHcCURVED BENDbTORSO-FLOORPLANE TWISTING
  bUPPER BODY TILTING FROM HIP JOINTSbLIMB COMBINATIONcLENGTH-1cLENGTH-2cLENGTH-3cLENGTH-4cLENGTH-5
  cLENGTH-6cLENGTH-7bFINGERbLOCATION-WALLPLANE SPACEbbLOCATION-FLOORPLANEbLOCATION HEIGHTcWIDTH
  cDEPTHcHEAD NECKcTORSOcLIMBS DIGITSbCOMMAbFULL STOPbSEMICOLONbCOLONbPARENTHESIS
  +1DA9BbFILL MODIFIER-2cMODIFIER-3cMODIFIER-4cMODIFIER-5cMODIFIER-6+1DAA1bROTATION MODIFIER-2
  cMODIFIER-3cMODIFIER-4cMODIFIER-5cMODIFIER-6cMODIFIER-7cMODIFIER-8cMODIFIER-9cMODIFIER-10
  cMODIFIER-11cMODIFIER-12cMODIFIER-13cMODIFIER-14cMODIFIER-15cMODIFIER-16
  +1DF00aLATIN SMALL LETTER FENG DIGRAPH WITH TRILLdREVERSED SCRIPT GbbLETTER SMALL CAPITAL TURNED
  bSMALL LETTER REVERSED KbLETTER SMALL CAPITAL L WITH BELTbSMALL LETTER LEZH WITH RETROFLEX HOOK
  dTURNED Y WITH BELTdREVERSED ENGdTURNED R WITH LONG LEG AND RETROFLEX HOOKddT WITH HOOK
  bcLETTER RETROFLEX CLICK WITHbSMALL LETTER ESH WITH DOUBLE BARhAND CURLdbTURNED T WITH
  bcLETTER INVERTED GLOTTAL STOPccSTRETCHED CcSMALL CAPITAL TURNED KbSMALL LETTER L WITH FISHHOOK
  dDEZH DIGRAPH WITH PALATAL HOOKdcL WITH BELT ANDdcENG WITHddTURNED RdcR WITH FISHHOOK AND
  dcTESH DIGRAPH WITHddEZHdbDEZH DIGRAPH WITH RETROFLEXdcI WITH STROKE ANDdcO WITHddTESH DIGRAPHddC
  dS WITH CURL+1E000aCOMBINING GLAGOLITIC LETTER AZUdBUKYdVEDEdGLAGOLIdDOBROdYESTUdZHIVETE
  +1E008dZEMLJAdIZHEdbINITIALdIdDJERVIdKAKOdLJUDIJEdMYSLITEdNASHIdONUdPOKOJIdRITSIdSLOVOdTVRIDOdUKU
  dFRITUdHERU+1E01BdSHTAdTSIdCHRIVIdSHAdYERUdYERIdYATI+1E023dYUdSMALL YUS+1E026dYOdIOTATED SMALL YUS
  dbBIGdcIOTATEDdFITA+1E100aNYIAKENG PUACHUE HMONG LETTER MAeTSAeNTAeTAeHAeNAeXAeNKAeCAeLAeSAeZAeNCA
  eNTSAeKAeDAeNYAeNRAeVAeNTXAeTXAeFAeRAeQAeYAeNQAePAeXYAeNPAeDLAeNPLAeHAHeMLAePLAeGAeRRAeAeAAeIeUeO
  eOOeEeEEeW+1E130dTONE-BdTONE-MdTONE-JdTONE-VdTONE-SdTONE-GdTONE-DdSIGN FOR PERSONfTHINGfLOCATION
  fANIMALfINVERTEBRATEeXW XWdSYLLABLE LENGTHENER+1E140dDIGIT ZEROeONEeTWOeTHREEeFOUReFIVEeSIXeSEVEN
  eEIGHTeNINE+1E14EdLOGOGRAM NYAJdCIRCLED CA+1E290aTOTO LETTER PAcBAcTAcDAcKAcGAcMAcNAcNGAcSAcCHAcYA
  cWAcJAcHAcRAcLAcIcbBREATHYcIUcbBREATHYcUcEcbBREATHYcEOcbBREATHYcOcAEcbBREATHYcAbSIGN RISING TONE
  +1E2C0aWANCHO LETTER AAcAcBAcCAcDAcGAcYAcPHAcLAcNAcPAcTAcTHAcFAcSAcSHAcJAcZAcWAcVAcKAcOcAUcRAcMA
  cKHAcHAcEcIcNGAcUcLLHAcTSAcTRAcONGcAANGcANGcINGcONcENcAANcNYAcUENcYIHbTONE TUPcTUPNIcKOIcKOINI
  bDIGIT ZEROcONEcTWOcTHREEcFOURcFIVEcSIXcSEVENcEIGHTcNINE+1E2FFbNGUN SIGN
  +1E7E0aETHIOPIC SYLLABLE HHYAcHHYUcHHYIcHHYAAcHHYEEcHHYEcHHYO+1E7E8cGURAGE HHWAcHHWIcHHWEEcHHWE
  +1E7EDcGURAGE MWIdMWEE+1E7F0dQWIdQWEEdQWEdBWIdBWEEdKWIdKWEEdKWEdGWIdGWEEdGWEdFWIdFWEEdPWIdPWEE
  +1E800aMENDE KIKAKUI SYLLABLE M001 KIdM002 KAdM003 KUdM065 KEEdM095 KEdM076 KOOdM048 KOdM179 KUA
  dM004 WIdM005 WAdM006 WUdM126 WEEdM118 WEdM114 WOOdM045 WOdM194 WUIdM143 WEIdM061 WVIdM049 WVA
  dM139 WVEdM007 MINdM008 MANdM009 MUNdM059 MENdM094 MONdM154 MUANdM189 MUENdM010 BIdM011 BAdM012 BU
  dM150 BEEdM097 BEdM103 BOOdM138 BOdM013 IdM014 AdM015 UdM163 EEdM100 EdM165 OOdM147 OdM137 EI
  dM131 INdbM135dM195 ANdM178 ENdM019 SIdM020 SAdM021 SUdM162 SEEdM116 SEdM136 SOOdM079 SOdM196 SIA
  dM025 LIdM026 LAdM027 LUdM084 LEEdM073 LEdM054 LOOdM153 LOdM110 LONG LEdM016 DIdM017 DAdM018 DU
  dM089 DEEdM180 DOOdM181 DOdM022 TIdM023 TAdM024 TUdM091 TEEdM055 TEdM104 TOOdM069 TOdM028 JI
  dM029 JAdM030 JUdM157 JEEdM113 JEdM160 JOOdM063 JOdbM175 LONGdM031 YIdM032 YAdM033 YUdM109 YEE
  dM080 YEdM141 YOOdM121 YOdM034 FIdM035 FAdM036 FUdM078 FEEdM075 FEdM133 FOOdM088 FOdM197 FUA
  dM101 FANdM037 NINdM038 NANdM039 NUNdM117 NENdM169 NONdM176 HIdM041 HAdM186 HUdM040 HEEdM096 HE
  dM042 HOOdM140 HOdM083 HEEIdM128 HOOUdM053 HINdM130 HANdM087 HUNdM052 HENdM193 HONdM046 HUAN
  dM090 NGGIdM043 NGGAdM082 NGGUdM115 NGGEEdM146 NGGEdM156 NGGOOdM120 NGGOdM159 NGGAAdM127 NGGUA
  dM086 LONG NGGEdM106 LONG NGGOOdM183 LONG NGGOdM155 GIdM111 GAdM168 GUdM190 GEEdM166 GUEI
  dM167 GUANdM184 NGENdM057 NGONdM177 NGUANdM068 PIdM099 PAdM050 PUdM081 PEEdM051 PEdM102 POO
  dM066 POdM145 MBIdM062 MBAdM122 MBUdM047 MBEEdbM188dM072 MBEdM172 MBOOdM174 MBOdM187 MBUU
  dM161 LONG MBEdM105 LONG MBOOdM142 LONG MBOdM132 KPIdM092 KPAdM074 KPUdM044 KPEEdM108 KPE
  dM112 KPOOdM158 KPOdM124 GBIdM056 GBAdM148 GBUdM093 GBEEdM107 GBEdM071 GBOOdM070 GBOdM171 RA
  dM123 NDIdM129 NDAdM125 NDUdM191 NDEEdM119 NDEdM067 NDOOdM064 NDOdM152 NJAdM192 NJUdM149 NJEE
  dM134 NJOOdM182 VIdM185 VAdM151 VUdM173 VEEdM085 VEdM144 VOOdM077 VOdM164 NYINdM058 NYANdM170 NYUN
  dM098 NYENdM060 NYON+1E8C7cDIGIT ONEdTWOdTHREEdFOURdFIVEdSIXdSEVENdEIGHTdNINE
  cCOMBINING NUMBER TEENSeTENSeHUNDREDSeTHOUSANDSebTENebHUNDREDeMILLIONS
  +1E900aADLAM CAPITAL LETTER ALIFdDAALIdLAAMdMIIMdBAdSINNYIIYHEdPEdBHEdRAdEdFAdIdOdDHAdYHEdWAWdNUN
  dKAFdYAdUdJIIMdCHIdHAdQAAFdGAdNYAdTUdNHAdVAdKHAdGBEdZALdKPOdSHAbSMALL LETTER ALIFdDAALIdLAAMdMIIM
  dBAdSINNYIIYHEdPEdBHEdRAdEdFAdIdOdDHAdYHEdWAWdNUNdKAFdYAdUdJIIMdCHIdHAdQAAFdGAdNYAdTUdNHAdVAdKHA
  dGBEdZALdKPOdSHAbALIF LENGTHENERbbVOWELbGEMINATION MARKbHAMZAbCONSONANT MODIFIERbcGEMINATEbNUKTA
  bNASALIZATION MARK+1E950bDIGIT ZEROcONEcTWOcTHREEcFOURcFIVEcSIXcSEVENcEIGHTcNINE
  +1E95EbINITIAL EXCLAMATION MARKcbQUESTION+1EC71aINDIC SIYAQ NUMBER ONEdTWOdTHREEdFOURdFIVEdSIX
  dSEVENdEIGHTdNINEdTENdTWENTYdTHIRTYdFORTYdFIFTYdSIXTYdSEVENTYdEIGHTYdNINETYdONE HUNDREDdbTWO
  dbTHREEdbFOURdbFIVEdbSIXdbSEVENdbEIGHTdbNINEdONE THOUSANDdbTWOdbTHREEdbFOURdbFIVEdbSIXdbSEVEN
  dbEIGHTdbNINEdbTENdbTWENTYdbTHIRTYdbFORTYdbFIFTYdbSIXTYdbSEVENTYdbEIGHTYdbNINETYdLAKHdLAKHAN
  cLAKH MARKcNUMBER KARORdKARORANdPREFIXED ONEeTWOeTHREEeFOUReFIVEeSIXeSEVENeEIGHTeNINEcPLACEHOLDER
  cFRACTION ONE QUARTEReHALFdTHREE QUARTERScRUPEE MARKcNUMBER ALTERNATE ONEeTWOeTEN THOUSAND
  cALTERNATE LAKH MARK+1ED01aOTTOMAN SIYAQ NUMBER ONEdTWOdTHREEdFOURdFIVEdSIXdSEVENdEIGHTdNINEdTEN
  dTWENTYdTHIRTYdFORTYdFIFTYdSIXTYdSEVENTYdEIGHTYdNINETYdONE HUNDREDdbTWOdbTHREEdbFOURdbFIVEdbSIX
  dbSEVENdbEIGHTdbNINEdONE THOUSANDdbTWOdbTHREEdbFOURdbFIVEdbSIXdbSEVENdbEIGHTdbNINEdbTENdbTWENTY
  dbTHIRTYdbFORTYdbFIFTYdbSIXTYdbSEVENTYdbEIGHTYdbNINETYcMARRATANcALTERNATE NUMBER TWOeTHREEeFOUR
  eFIVEeSIXeSEVENeEIGHTeNINEeTENeFOUR HUNDREDebSIXeTWO THOUSANDebTENcFRACTION ONE HALFeSIXTH
  +1EE00aARABIC MATHEMATICAL ALEFcBEHcJEEMcDAL+1EE05cWAWcZAINcHAHcTAHcYEHcKAFcLAMcMEEMcNOONcSEENcAIN
  cFEHcSADcQAFcREHcSHEENcTEHcTHEHcKHAHcTHALcDADcZAHcGHAINcDOTLESS BEHdNOONdFEHdQAF+1EE21cINITIAL BEH
  dJEEM+1EE24dHEH+1EE27dHAH+1EE29dYEHdKAFdLAMdMEEMdNOONdSEENdAINdFEHdSADdQAF+1EE34dSHEENdTEHdTHEH
  dKHAH+1EE39dDAD+1EE3BdGHAIN+1EE42cTAILED JEEM+1EE47dHAH+1EE49dYEH+1EE4BdLAM+1EE4DdNOONdSEENdAIN
  +1EE51dSADdQAF+1EE54dSHEEN+1EE57dKHAH+1EE59dDAD+1EE5BdGHAIN+1EE5DdDOTLESS NOON+1EE5FeQAF
  +1EE61cSTRETCHED BEHdJEEM+1EE64dHEH+1EE67dHAHdTAHdYEHdKAF+1EE6CdMEEMdNOONdSEENdAINdFEHdSADdQAF
  +1EE74dSHEENdTEHdTHEHdKHAH+1EE79dDADdZAHdGHAINdDOTLESS BEH+1EE7EeFEH+1EE80cLOOPED ALEFdBEHdJEEM
  dDALdHEHdWAWdZAINdHAHdTAHdYEH+1EE8BdLAMdMEEMdNOONdSEENdAINdFEHdSADdQAFdREHdSHEENdTEHdTHEHdKHAH
  dTHALdDADdZAHdGHAIN+1EEA1cDOUBLE-STRUCK BEHdJEEMdDAL+1EEA5dWAWdZAINdHAHdTAHdYEH+1EEABdLAMdMEEM
  dNOONdSEENdAINdFEHdSADdQAFdREHdSHEENdTEHdTHEHdKHAHdTHALdDADdZAHdGHAIN
  +1EEF0cOPERATOR MEEM WITH HAH WITH TATWEELdHAH WITH DAL+1F000aMAHJONG TILE EAST WINDcbSOUTHcbWEST
  cbNORTHcRED DRAGONcbGREENcbWHITEcONE OF CHARACTERSccTWOccTHREEccFOURccFIVEccSIXccSEVENccEIGHT
  ccNINEcONE OF BAMBOOSccTWOccTHREEccFOURccFIVEccSIXccSEVENccEIGHTccNINEcONE OF CIRCLESccTWOccTHREE
  ccFOURccFIVEccSIXccSEVENccEIGHTccNINEcPLUMcORCHIDcBAMBOOcCHRYSANTHEMUMcSPRINGcSUMMERcAUTUMNcWINTER
  cJOKERcBACK+1F030abDOMINO TILE HORIZONTALcHORIZONTAL-00-00cHORIZONTAL-00-01cHORIZONTAL-00-02
  cHORIZONTAL-00-03cHORIZONTAL-00-04cHORIZONTAL-00-05cHORIZONTAL-00-06cHORIZONTAL-01-00
  cHORIZONTAL-01-01cHORIZONTAL-01-02cHORIZONTAL-01-03cHORIZONTAL-01-04cHORIZONTAL-01-05
  cHORIZONTAL-01-06cHORIZONTAL-02-00cHORIZONTAL-02-01cHORIZONTAL-02-02cHORIZONTAL-02-03
  cHORIZONTAL-02-04cHORIZONTAL-02-05cHORIZONTAL-02-06cHORIZONTAL-03-00cHORIZONTAL-03-01
  cHORIZONTAL-03-02cHORIZONTAL-03-03cHORIZONTAL-03-04cHORIZONTAL-03-05cHORIZONTAL-03-06
  cHORIZONTAL-04-00cHORIZONTAL-04-01cHORIZONTAL-04-02cHORIZONTAL-04-03cHORIZONTAL-04-04
  cHORIZONTAL-04-05cHORIZONTAL-04-06cHORIZONTAL-05-00cHORIZONTAL-05-01cHORIZONTAL-05-02
  cHORIZONTAL-05-03cHORIZONTAL-05-04cHORIZONTAL-05-05cHORIZONTAL-05-06cHORIZONTAL-06-00
  cHORIZONTAL-06-01cHORIZONTAL-06-02cHORIZONTAL-06-03cHORIZONTAL-06-04cHORIZONTAL-06-05
  cHORIZONTAL-06-06cVERTICAL BACKcVERTICAL-00-00cVERTICAL-00-01cVERTICAL-00-02cVERTICAL-00-03
  cVERTICAL-00-04cVERTICAL-00-05cVERTICAL-00-06cVERTICAL-01-00cVERTICAL-01-01cVERTICAL-01-02
  cVERTICAL-01-03cVERTICAL-01-04cVERTICAL-01-05cVERTICAL-01-06cVERTICAL-02-00cVERTICAL-02-01
  cVERTICAL-02-02cVERTICAL-02-03cVERTICAL-02-04cVERTICAL-02-05cVERTICAL-02-06cVERTICAL-03-00
  cVERTICAL-03-01cVERTICAL-03-02cVERTICAL-03-03cVERTICAL-03-04cVERTICAL-03-05cVERTICAL-03-06
  cVERTICAL-04-00cVERTICAL-04-01cVERTICAL-04-02cVERTICAL-04-03cVERTICAL-04-04cVERTICAL-04-05
  cVERTICAL-04-06cVERTICAL-05-00cVERTICAL-05-01cVERTICAL-05-02cVERTICAL-05-03cVERTICAL-05-04
  cVERTICAL-05-05cVERTICAL-05-06cVERTICAL-06-00cVERTICAL-06-01cVERTICAL-06-02cVERTICAL-06-03
  cVERTICAL-06-04cVERTICAL-06-05cVERTICAL-06-06+1F0A0aPLAYING CARD BACKcACE OF SPADESccTWOccTHREE
  ccFOURccFIVEccSIXccSEVENccEIGHTccNINEccTENccJACKccKNIGHTccQUEENccKING+1F0B1cACE OF HEARTSccTWO
  ccTHREEccFOURccFIVEccSIXccSEVENccEIGHTccNINEccTENccJACKccKNIGHTccQUEENccKINGcRED JOKER
  +1F0C1cACE OF DIAMONDSccTWOccTHREEccFOURccFIVEccSIXccSEVENccEIGHTccNINEccTENccJACKccKNIGHTccQUEEN
  ccKINGcBLACK JOKER+1F0D1cACE OF CLUBSccTWOccTHREEccFOURccFIVEccSIXccSEVENccEIGHTccNINEccTENccJACK
  ccKNIGHTccQUEENccKINGcWHITE JOKERcFOOLcTRUMP-1cTRUMP-2cTRUMP-3cTRUMP-4cTRUMP-5cTRUMP-6cTRUMP-7
  cTRUMP-8cTRUMP-9cTRUMP-10cTRUMP-11cTRUMP-12cTRUMP-13cTRUMP-14cTRUMP-15cTRUMP-16cTRUMP-17cTRUMP-18
  cTRUMP-19cTRUMP-20cTRUMP-21+1F100aDIGIT ZERO FULL STOPcCOMMAbbONEbbTWObbTHREEbbFOURbbFIVEbbSIX
  bbSEVENbbEIGHTbbNINEaDINGBAT CIRCLED SANS-SERIF DIGIT ZERObeNEGATIVEaCIRCLED ZERO WITH SLASH
  bANTICLOCKWISE ARROWbDOLLAR SIGN WITH OVERLAID BACKSLASHaPARENTHESIZED LATIN CAPITAL LETTER AeBeC
  eDeEeFeGeHeIeJeKeLeMeNeOePeQeReSeTeUeVeWeXeYeZaTORTOISE SHELL BRACKETED LATIN CAPITAL LETTER S
  aCIRCLED ITALIC LATIN CAPITAL LETTER CfRbCDbWZaCOPYLEFT SYMBOLaSQUARED LATIN CAPITAL LETTER AeBeC
  eDeEeFeGeHeIeJeKeLeMeNeOePeQeReSeTeUeVeWeXeYeZbHVbMVbSDbSSbPPVbWC
  aNEGATIVE CIRCLED LATIN CAPITAL LETTER AfBfCfDfEfFfGfHfIfJfKfLfMfNfOfPfQfRfSfTfUfVfWfXfYfZ
  aRAISED MC SIGNbbMDbbMRaCIRCLED CCbC WITH OVERLAID BACKSLASHbHUMAN FIGURE
  aNEGATIVE SQUARED LATIN CAPITAL LETTER AfBfCfDfEfFfGfHfIfJfKfLfMfNfOfPfQfRfSfTfUfVfWfXfYfZ
  aCROSSED NEGATIVE SQUARED LATIN CAPITAL LETTER PaNEGATIVE SQUARED ICcPAcSAcABcWCaSQUARE DJ
  aSQUARED CLbCOOLbFREEbIDbNEWbNGbOKbSOSbUP WITH EXCLAMATION MARKbVSbTHREE DbSECOND SCREENbTWO K
  bbFOURbbEIGHTbFIVE POINT ONEbcSEVENbTWENTY-TWO POINT TWObSIXTY PbbONE HUNDRED TWENTY
  bLATIN SMALL LETTER DbHCbHDRbHI-RESbLOSSLESSbSHVbUHDbVODaMASK WORK SYMBOL
  +1F1E6aREGIONAL INDICATOR SYMBOL LETTER AeBeCeDeEeFeGeHeIeJeKeLeMeNeOePeQeReSeTeUeVeWeXeYeZ
  aSQUARE HIRAGANA HOKAaSQUARED KATAKANA KOKOcSA+1F210bCJK UNIFIED IDEOGRAPH-624BdIDEOGRAPH-5B57
  dIDEOGRAPH-53CCbKATAKANA DEbCJK UNIFIED IDEOGRAPH-4E8CdIDEOGRAPH-591AdIDEOGRAPH-89E3
  dIDEOGRAPH-5929dIDEOGRAPH-4EA4dIDEOGRAPH-6620dIDEOGRAPH-7121dIDEOGRAPH-6599dIDEOGRAPH-524D
  dIDEOGRAPH-5F8CdIDEOGRAPH-518DdIDEOGRAPH-65B0dIDEOGRAPH-521DdIDEOGRAPH-7D42dIDEOGRAPH-751F
  dIDEOGRAPH-8CA9dIDEOGRAPH-58F0dIDEOGRAPH-5439dIDEOGRAPH-6F14dIDEOGRAPH-6295dIDEOGRAPH-6355
  dIDEOGRAPH-4E00dIDEOGRAPH-4E09dIDEOGRAPH-904AdIDEOGRAPH-5DE6dIDEOGRAPH-4E2DdIDEOGRAPH-53F3
  dIDEOGRAPH-6307dIDEOGRAPH-8D70dIDEOGRAPH-6253dIDEOGRAPH-7981dIDEOGRAPH-7A7AdIDEOGRAPH-5408
  dIDEOGRAPH-6E80dIDEOGRAPH-6709dIDEOGRAPH-6708dIDEOGRAPH-7533dIDEOGRAPH-5272dIDEOGRAPH-55B6
  dIDEOGRAPH-914D+1F240aTORTOISE SHELL BRACKETED CJK UNIFIED IDEOGRAPH-672CfIDEOGRAPH-4E09
  fIDEOGRAPH-4E8CfIDEOGRAPH-5B89fIDEOGRAPH-70B9fIDEOGRAPH-6253fIDEOGRAPH-76D7fIDEOGRAPH-52DD
  fIDEOGRAPH-6557+1F250aCIRCLED IDEOGRAPH ADVANTAGEcACCEPT+1F260aROUNDED SYMBOL FOR FUdLUdSHOUdXI
  dSHUANGXIdCAI+1F300aCYCLONEaFOGGYaCLOSED UMBRELLAaNIGHT WITH STARSaSUNRISE OVER MOUNTAINSb
  +1F306aCITYSCAPE AT DUSKaSUNSET OVER BUILDINGSaRAINBOWaBRIDGE AT NIGHTaWATER WAVEaVOLCANO
  aMILKY WAYaEARTH GLOBE EUROPE-AFRICAcAMERICAScASIA-AUSTRALIAaGLOBE WITH MERIDIANSaNEW MOON SYMBOL
  acWAXING CRESCENTacFIRST QUARTERacWAXING GIBBOUSacFULLacWANING GIBBOUSacLAST QUARTER
  acWANING CRESCENTaCRESCENT MOONaNEW MOON WITH FACEadFIRST QUARTERaeLASTadFULLacSUNaGLOWING STAR
  abSHOOTINGaTHERMOMETERaBLACK DROPLETaWHITE SUNcWITH SMALL CLOUDcbBEHINDeWITH RAINad+1F328cSNOW
  cLIGHTNINGcTORNADOaFOGaWIND BLOWING FACEaHOT DOGaTACOaBURRITOaCHESTNUTaSEEDLINGaEVERGREEN TREE
  abDECIDUOUSabPALMaCACTUSaHOT PEPPERaTULIPaCHERRY BLOSSOMaROSEaHIBISCUSaSUNFLOWERaBLOSSOM
  aEAR OF MAIZEcRICEaHERBaFOUR LEAF CLOVERaMAPLE LEAFabFALLENaLEAF FLUTTERING IN WINDaMUSHROOM
  aTOMATOaAUBERGINEaGRAPESaMELONaWATERMELONaTANGERINEaLEMONaBANANAaPINEAPPLEaRED APPLEabGREENaPEAR
  aPEACHaCHERRIESaSTRAWBERRYaHAMBURGERaSLICE OF PIZZAaMEAT ON BONEaPOULTRY LEGaRICE CRACKERbBALL
  aCOOKED RICEabCURRY ANDaSTEAMING BOWLaSPAGHETTIaBREADaFRENCH FRIESaROASTED SWEET POTATOaDANGOaODEN
  aSUSHIaFRIED SHRIMPaFISH CAKE WITH SWIRL DESIGNaSOFT ICE CREAMaSHAVED ICEaICE CREAMaDOUGHNUT
  aCOOKIEaCHOCOLATE BARaCANDYaLOLLIPOPaCUSTARDaHONEY POTaSHORTCAKEaBENTO BOXaPOT OF FOODaCOOKING
  aFORK AND KNIFEaTEACUP WITHOUT HANDLEaSAKE BOTTLE AND CUPaWINE GLASSabCOCKTAILaTROPICAL DRINK
  aBEER MUGaCLINKING BEER MUGSaBABY BOTTLEaFORK AND KNIFE WITH PLATEaBOTTLE WITH POPPING CORK
  aPOPCORNaRIBBONaWRAPPED PRESENTaBIRTHDAY CAKEaJACK-O-LANTERNaCHRISTMAS TREEaFATHER CHRISTMAS
  aFIREWORKSaFIREWORK SPARKLERaBALLOONaPARTY POPPERaCONFETTI BALLaTANABATA TREEaCROSSED FLAGS
  aPINE DECORATIONaJAPANESE DOLLSaCARP STREAMERaWIND CHIMEaMOON VIEWING CEREMONYaSCHOOL SATCHEL
  aGRADUATION CAPaHEART WITH TIP ON THE LEFTaBOUQUET OF FLOWERSaMILITARY MEDALaREMINDER RIBBON
  aMUSICAL KEYBOARD WITH JACKSaSTUDIO MICROPHONEaLEVEL SLIDERaCONTROL KNOBS
  aBEAMED ASCENDING MUSICAL NOTESbcDESCENDINGaFILM FRAMESaADMISSION TICKETSaCAROUSEL HORSE
  aFERRIS WHEELaROLLER COASTERaFISHING POLE AND FISHaMICROPHONEaMOVIE CAMERAaCINEMAaHEADPHONE
  aARTIST PALETTEaTOP HATaCIRCUS TENTaTICKETaCLAPPER BOARDaPERFORMING ARTSaVIDEO GAMEaDIRECT HIT
  aSLOT MACHINEaBILLIARDSaGAME DIEaBOWLINGaFLOWER PLAYING CARDSaMUSICAL NOTEaMULTIPLE MUSICAL NOTES
  aSAXOPHONEaGUITARaMUSICAL KEYBOARDaTRUMPETaVIOLINaMUSICAL SCOREaRUNNING SHIRT WITH SASH
  aTENNIS RACQUET AND BALLaSKI AND SKI BOOTaBASKETBALL AND HOOPaCHEQUERED FLAGaSNOWBOARDERaRUNNER
  aSURFERaSPORTS MEDALaTROPHYaHORSE RACINGaAMERICAN FOOTBALLabRUGBYaSWIMMERaWEIGHT LIFTERaGOLFER
  aRACING MOTORCYCLEbCARaCRICKET BAT AND BALLaVOLLEYBALLaFIELD HOCKEY STICK AND BALL
  aICE HOCKEY STICK AND PUCKaTABLE TENNIS PADDLE AND BALLaSNOW CAPPED MOUNTAINaCAMPING
  aBEACH WITH UMBRELLAaBUILDING CONSTRUCTIONaHOUSE BUILDINGSaCITYSCAPEaDERELICT HOUSE BUILDING
  abCLASSICALaDESERTbISLANDaNATIONAL PARKaSTADIUMaHOUSE BUILDINGbWITH GARDENaOFFICE BUILDING
  aJAPANESE POST OFFICEacEUROPEANaHOSPITALaBANKaAUTOMATED TELLER MACHINEaHOTELabLOVE
  aCONVENIENCE STOREaSCHOOLaDEPARTMENT STOREaFACTORYaIZAKAYA LANTERNaJAPANESE CASTLEabEUROPEAN
  aWHITE PENNANTabBLACKaWAVING WHITE FLAGbbBLACKaROSETTEabBLACKaLABEL
  aBADMINTON RACQUET AND SHUTTLECOCKaBOW AND ARROWaAMPHORAaEMOJI MODIFIER FITZPATRICK TYPE-1-2
  dTYPE-3dTYPE-4dTYPE-5dTYPE-6aRATaMOUSEaOXaWATER BUFFALOaCOWaTIGERaLEOPARDaRABBITaCATaDRAGON
  aCROCODILEaWHALEaSNAILaSNAKEaHORSEaRAMaGOATaSHEEPaMONKEYaROOSTERaCHICKENaDOGaPIGaBOARaELEPHANT
  aOCTOPUSaSPIRAL SHELLaBUGaANTaHONEYBEEaLADY BEETLEaFISHabTROPICALaBLOWFISHaTURTLEaHATCHING CHICK
  abBABYacFRONT-FACINGaBIRDaPENGUINaKOALAaPOODLEaDROMEDARY CAMELabBACTRIANaDOLPHINaMOUSE FACEabCOW
  abTIGERabRABBITabCATabDRAGONaSPOUTING WHALEaHORSE FACEabMONKEYabDOGabPIGabFROGabHAMSTERabWOLF
  abBEARabPANDAaPIG NOSEaPAW PRINTSaCHIPMUNKaEYESaEYEaEARaNOSEaMOUTHaTONGUE
  aWHITE UP POINTING BACKHAND INDEXbdDOWNbdLEFTbdRIGHTaFISTED HAND SIGNacWAVINGacOKabTHUMBS UPbbDOWN
  abCLAPPING HANDSacOPENaCROWNaWOMANS HATaEYEGLASSESaNECKTIEaT-SHIRTaJEANSaDRESSaKIMONOaBIKINI
  aWOMANS CLOTHESaPURSEaHANDBAGaPOUCHaMANS SHOEabATHLETICabHIGH-HEELEDaWOMANS SANDALbBOOTS
  aFOOTPRINTSaBUST IN SILHOUETTEacBUSTSaBOYaGIRLaMANaWOMANaFAMILYaMAN AND WOMAN HOLDING HANDS
  acTWO MENbcWOMENaPOLICE OFFICERaWOMAN WITH BUNNY EARSaBRIDE WITH VEILaPERSON WITH BLOND HAIR
  aMAN WITH GUA PI MAOcTURBANaOLDER MANbWOMANaBABYaCONSTRUCTION WORKERaPRINCESSaJAPANESE OGREbGOBLIN
  aGHOSTaBABY ANGELaEXTRATERRESTRIAL ALIENaALIEN MONSTERaIMPaSKULLaINFORMATION DESK PERSONaGUARDSMAN
  aDANCERaLIPSTICKaNAIL POLISHaFACE MASSAGEaHAIRCUTaBARBER POLEaSYRINGEaPILLaKISS MARKaLOVE LETTER
  aRINGaGEM STONEaKISSaBOUQUETaCOUPLE WITH HEARTaWEDDINGaBEATING HEARTabBROKENaTWO HEARTS
  aSPARKLING HEARTabGROWINGaHEART WITH ARROWaBLUE HEARTabGREENabYELLOWabPURPLEaHEART WITH RIBBON
  aREVOLVING HEARTSaHEART DECORATIONaDIAMOND SHAPE WITH A DOT INSIDEaELECTRIC LIGHT BULB
  aANGER SYMBOLaBOMBaSLEEPING SYMBOLabCOLLISIONabSPLASHING SWEATaDROPLETaDASH SYMBOLaPILE OF POO
  aFLEXED BICEPSaDIZZY SYMBOLaSPEECH BALLOONabTHOUGHTaWHITE FLOWERaHUNDRED POINTS SYMBOLaMONEY BAG
  aCURRENCY EXCHANGEaHEAVY DOLLAR SIGNaCREDIT CARDaBANKNOTE WITH YEN SIGNcbDOLLARcbEUROcbPOUND
  aMONEY WITH WINGSaCHART WITH UPWARDS TREND AND YEN SIGNaSEATaPERSONAL COMPUTERaBRIEFCASEaMINIDISC
  aFLOPPY DISKaOPTICAL DISCaDVDaFILE FOLDERacOPENaPAGE WITH CURLbFACING UPaCALENDARabTEAR-OFF
  aCARD INDEXaCHART WITH UPWARDS TRENDcbDOWNWARDSaBAR CHARTaCLIPBOARDaPUSHPINabROUNDaPAPERCLIP
  aSTRAIGHT RULERabTRIANGULARaBOOKMARK TABSaLEDGERaNOTEBOOKbWITH DECORATIVE COVERaCLOSED BOOKabOPEN
  abGREENabBLUEabORANGEaBOOKSaNAME BADGEaSCROLLaMEMOaTELEPHONE RECEIVERaPAGERaFAX MACHINE
  aSATELLITE ANTENNAaPUBLIC ADDRESS LOUDSPEAKERaCHEERING MEGAPHONEaOUTBOX TRAYabINBOXaPACKAGE
  aE-MAIL SYMBOLaINCOMING ENVELOPEaENVELOPE WITH DOWNWARDS ARROW ABOVE
  aCLOSED MAILBOX WITH LOWERED FLAGdbRAISEDaeOPENdbLOWEREDaPOSTBOXaPOSTAL HORNaNEWSPAPER
  aMOBILE PHONEcWITH RIGHTWARDS ARROW AT LEFTaVIBRATION MODEaMOBILE PHONE OFFaNO MOBILE PHONES
  aANTENNA WITH BARSaCAMERAbWITH FLASHaVIDEO CAMERAaTELEVISIONaRADIOaVIDEOCASSETTEaFILM PROJECTOR
  aPORTABLE STEREOaPRAYER BEADSaTWISTED RIGHTWARDS ARROWS
  abCLOCKWISE RIGHTWARDS AND LEFTWARDS OPEN CIRCLEhWITH CIRCLED ONE OVERLAY
  bDOWNWARDS AND UPWARDS OPEN CIRCLE ARROWSagANTICLOCKWISEaLOW BRIGHTNESS SYMBOLacHIGH
  aSPEAKER WITH CANCELLATION STROKEb+1F509bWITH ONE SOUND WAVEcTHREE SOUND WAVESaBATTERY
  aELECTRIC PLUGaLEFT-POINTING MAGNIFYING GLASSacRIGHT-POINTINGaLOCK WITH INK PEN
  aCLOSED LOCK WITH KEYab+1F512aLOCKabOPENaBELLbWITH CANCELLATION STROKEaBOOKMARKaLINK SYMBOL
  aRADIO BUTTONaBACK WITH LEFTWARDS ARROW ABOVEaeENDacON WITH EXCLAMATION MARK WITH LEFT RIGHT
  acSOON WITH RIGHTWARDSacTOP WITH UPWARDSaNO ONE UNDER EIGHTEEN SYMBOLaKEYCAP TEN
  aINPUT SYMBOL FOR LATIN CAPITAL LETTERSebSMALLdNUMBERSdSYMBOLSdLATIN LETTERSaFIREaELECTRIC TORCH
  aWRENCHaHAMMERaNUT AND BOLTaHOCHOaPISTOLaMICROSCOPEaTELESCOPEaCRYSTAL BALL
  aSIX POINTED STAR WITH MIDDLE DOTaJAPANESE SYMBOL FOR BEGINNERaTRIDENT EMBLEMaBLACK SQUARE BUTTON
  acWHITEaLARGE RED CIRCLEbbBLUEbORANGE DIAMONDbbBLUEabSMALL ORANGEbbBLUEaUP-POINTING RED TRIANGLE
  acDOWN-POINTINGacUP-POINTING SMALLadDOWN-POINTINGaLOWER RIGHT SHADOWED WHITE CIRCLEaeUPPER
  aCIRCLED CROSS POMMEEaCROSS POMMEE WITH HALF-CIRCLE BELOWc
  +1F543aNOTCHED LEFT SEMICIRCLE WITH THREE DOTSbeRIGHTaSYMBOL FOR MARKS CHAPTERaWHITE LATIN CROSS
  acHEAVYabCELTICaOM SYMBOLaDOVE OF PEACEaKAABAaMOSQUEaSYNAGOGUEaMENORAH WITH NINE BRANCHES
  aBOWL OF HYGIEIAaCLOCK FACE ONE OCLOCKcbTWOcbTHREEcbFOURcbFIVEcbSIXcbSEVENcbEIGHTcbNINEcbTEN
  cbELEVENcbTWELVEcONE-THIRTYcTWO-THIRTYcTHREE-THIRTYcFOUR-THIRTYcFIVE-THIRTYcSIX-THIRTY
  cSEVEN-THIRTYcEIGHT-THIRTYcNINE-THIRTYcTEN-THIRTYcELEVEN-THIRTYcTWELVE-THIRTYaRIGHT SPEAKER
  cWITH ONE SOUND WAVEdTHREE SOUND WAVESaBULLHORNbWITH SOUND WAVESaRINGING BELLaBOOKaCANDLE
  aMANTELPIECE CLOCKaBLACK SKULL AND CROSSBONESaNO PIRACYaHOLEaMAN IN BUSINESS SUIT LEVITATING
  aSLEUTH OR SPYaDARK SUNGLASSESaSPIDERbWEBaJOYSTICKaMAN DANCINGaLEFT HAND TELEPHONE RECEIVER
  aTELEPHONE RECEIVER WITH PAGEaRIGHT HAND TELEPHONE RECEIVERaWHITE TOUCHTONE TELEPHONEacBLACK
  aTELEPHONE ON TOP OF MODEMaCLAMSHELL MOBILE PHONEaBACK OF ENVELOPEabSTAMPED
  aENVELOPE WITH LIGHTNINGaFLYING ENVELOPEabPEN OVER STAMPEDaLINKED PAPERCLIPSaBLACK PUSHPIN
  aLOWER LEFT PENCILcBALLPOINT PENcbFOUNTAINcPAINTBRUSHcCRAYONaLEFT WRITING HANDaTURNED OK HAND SIGN
  aRAISED HAND WITH FINGERS SPLAYEDafREVERSEDbTHUMBS UP SIGNcbDOWNbVICTORY HAND
  bHAND WITH MIDDLE FINGER EXTENDEDaRAISED HAND WITH PART BETWEEN MIDDLE AND RING FINGERS
  aWHITE DOWN POINTING LEFT HAND INDEXabSIDEWAYS WHITE LEFT POINTINGccRIGHTbcBLACK LEFTccRIGHT
  abBLACK LEFT POINTING BACKHANDbdRIGHTabSIDEWAYS WHITE UP POINTINGccDOWNbcBLACK UPccDOWN
  abBLACK UP POINTING BACKHANDbdDOWNbHEARTaDESKTOP COMPUTERaKEYBOARD AND MOUSE
  aTHREE NETWORKED COMPUTERSaPRINTERaPOCKET CALCULATORaBLACK HARD SHELL FLOPPY DISKaeWHITEadSOFT
  aTAPE CARTRIDGEaWIRED KEYBOARDaONE BUTTON MOUSEacTWOacTHREEaTRACKBALLaOLD PERSONAL COMPUTER
  aHARD DISKaSCREENaPRINTER ICONabFAXabOPTICAL DISCaDOCUMENT WITH TEXTdAND PICTUREcb+1F5BCacFRAME
  cTILEScAN XaBLACK FOLDERab+1F5C1abOPENaCARD INDEX DIVIDERSbFILE BOXaFILE CABINETaEMPTY NOTEcPAGE
  cPADaNOTEbPAGEbPADaEMPTY DOCUMENTbPAGEbPAGESaDOCUMENTaPAGEaPAGESaWASTEBASKETaSPIRAL NOTE PAD
  bbCALENDARaDESKTOP WINDOWaMINIMIZEaMAXIMIZEaOVERLAPaCLOCKWISE RIGHT AND LEFT SEMICIRCLE ARROWS
  aCANCELLATION XaINCREASE FONT SIZE SYMBOLadDECREASEaCOMPRESSIONaOLD KEYaROLLED-UP NEWSPAPER
  aPAGE WITH CIRCLED TEXTaSTOCK CHARTaDAGGER KNIFEaLIPSaSPEAKING HEAD IN SILHOUETTEaTHREE RAYS ABOVE
  cBELOWcLEFTcRIGHTaLEFT SPEECH BUBBLEacRIGHTaTWO SPEECH BUBBLESacTHREEaLEFT THOUGHT BUBBLEacRIGHT
  abLEFT ANGERacRIGHTabMOODacLIGHTNINGc+1F5F3aBALLOT BOX WITH BALLOTbSCRIPT XbcBOX WITHbcBOLD
  bdBOX WITHaLIGHT CHECK MARKaBALLOT BOX WITH BOLD CHECKaWORLD MAPaMOUNT FUJIaTOKYO TOWER
  aSTATUE OF LIBERTYaSILHOUETTE OF JAPANaMOYAIaGRINNING FACEcWITH SMILING EYES
  aFACE WITH TEARS OF JOYaSMILING FACE WITH OPEN MOUTHfAND SMILING EYESgCOLD SWEAT
  gTIGHTLY-CLOSED EYESdHALOdHORNSaWINKING FACEaSMILING FACE WITH SMILING EYES
  aFACE SAVOURING DELICIOUS FOODaRELIEVED FACEaSMILING FACE WITH HEART-SHAPED EYESdSUNGLASSES
  aSMIRKING FACEabNEUTRALabEXPRESSIONLESSabUNAMUSEDaFACE WITH COLD SWEATaPENSIVE FACEabCONFUSED
  abCONFOUNDEDabKISSINGaFACE THROWING A KISSaKISSING FACE WITH SMILING EYESdbCLOSED
  aFACE WITH STUCK-OUT TONGUEeAND WINKING EYEfTIGHTLY-CLOSED EYESaDISAPPOINTED FACEabWORRIEDabANGRY
  abPOUTINGabCRYINGabPERSEVERINGaFACE WITH LOOK OF TRIUMPHaDISAPPOINTED BUT RELIEVED FACE
  aFROWNING FACE WITH OPEN MOUTHaANGUISHED FACEabFEARFULabWEARYabSLEEPYabTIREDabGRIMACING
  abLOUDLY CRYINGaFACE WITH OPEN MOUTHaHUSHED FACEaFACE WITH OPEN MOUTH AND COLD SWEAT
  bSCREAMING IN FEARaASTONISHED FACEabFLUSHEDabSLEEPINGabDIZZYaFACE WITHOUT MOUTHbWITH MEDICAL MASK
  aGRINNING CAT FACE WITH SMILING EYESaCAT FACE WITH TEARS OF JOYaSMILING CAT FACE WITH OPEN MOUTH
  eHEART-SHAPED EYESaCAT FACE WITH WRY SMILEaKISSING CAT FACE WITH CLOSED EYESaPOUTING CAT FACE
  acCRYINGacWEARYabSLIGHTLY FROWNINGbbSMILINGabUPSIDE-DOWNaFACE WITH ROLLING EYEScNO GOOD GESTURE
  cbOKaPERSON BOWING DEEPLYaSEE-NO-EVIL MONKEYabHEAR-NO-EVILabSPEAK-NO-EVIL
  aHAPPY PERSON RAISING ONE HANDaPERSON RAISING BOTH HANDS IN CELEBRATIONbFROWNINGbWITH POUTING FACE
  cFOLDED HANDSaNORTH WEST POINTING LEAFadSOUTHacNORTH EASTadSOUTHacTURNED NORTH WESTbdSOUTH
  bcNORTH EASTbdSOUTHabNORTH WEST POINTING VINEaeSOUTHadNORTH EASTaeSOUTHadHEAVY NORTH WESTbeSOUTH
  bdNORTH EASTbeSOUTHaNORTH WEST POINTING BUDadSOUTHacNORTH EASTadSOUTHacHEAVY NORTH WESTbdSOUTH
  bcNORTH EASTbdSOUTHaHOLLOW QUILT SQUARE ORNAMENTeIN BLACK SQUAREaSOLID QUILT SQUARE ORNAMENT
  eIN BLACK SQUAREaLEFTWARDS ROCKETabUPWARDSabRIGHTWARDSabDOWNWARDSaSCRIPT LIGATURE ET ORNAMENT
  aeHEAVYacLIGATURE OPENaeHEAVYbbAMPERSANDacSWASH
  abSANS-SERIF HEAVY DOUBLE TURNED COMMA QUOTATION MARKde+1F678cfLOWabHEAVY INTERROBANGacSANS-SERIF
  adHEAVYaVERY HEAVY SOLIDUScbREVERSEaCHECKER BOARDacREVERSEaROCKETaHELICOPTERaSTEAM LOCOMOTIVE
  aRAILWAY CARaHIGH-SPEED TRAINcWITH BULLET NOSEaTRAINaMETROaLIGHT RAILaSTATIONaTRAMbCARaBUS
  abONCOMINGaTROLLEYBUSaBUS STOPaMINIBUSaAMBULANCEaFIRE ENGINEaPOLICE CARacONCOMINGaTAXIabONCOMING
  aAUTOMOBILEabONCOMINGaRECREATIONAL VEHICLEaDELIVERY TRUCKaARTICULATED LORRYaTRACTORaMONORAIL
  aMOUNTAIN RAILWAYabSUSPENSIONaMOUNTAIN CABLEWAYaAERIAL TRAMWAYaSHIPaROWBOATaSPEEDBOAT
  aHORIZONTAL TRAFFIC LIGHTacVERTICALaCONSTRUCTION SIGNaPOLICE CARS REVOLVING LIGHT
  aTRIANGULAR FLAG ON POSTaDOORaNO ENTRY SIGNaSMOKING SYMBOLacNOabPUT LITTER IN ITS PLACE
  abDO NOT LITTERabPOTABLE WATERacNON-POTABLEaBICYCLEaNO BICYCLESaBICYCLISTabMOUNTAINaPEDESTRIAN
  aNO PEDESTRIANSaCHILDREN CROSSINGaMENS SYMBOLabWOMENSaRESTROOMaBABY SYMBOLaTOILETaWATER CLOSET
  aSHOWERaBATHaBATHTUBaPASSPORT CONTROLaCUSTOMSaBAGGAGE CLAIMaLEFT LUGGAGE
  aTRIANGLE WITH ROUNDED CORNERSaPROHIBITED SIGNaCIRCLED INFORMATION SOURCEaBOYS SYMBOLabGIRLS
  aCOUCH AND LAMPaSLEEPING ACCOMMODATIONaSHOPPING BAGSaBELLHOP BELLaBEDaPLACE OF WORSHIP
  aOCTAGONAL SIGNaSHOPPING TROLLEYaSTUPAaPAGODAaHINDU TEMPLEaHUTaELEVATOR+1F6DDaPLAYGROUND SLIDE
  aWHEELaRING BUOYaHAMMER AND WRENCHaSHIELDaOIL DRUMaMOTORWAYaRAILWAY TRACKaMOTOR BOAT
  aUP-POINTING MILITARY AIRPLANEbb+1F6E8bbSMALLac+1F6EAabNORTHEAST-POINTINGaAIRPLANE DEPARTURE
  bARRIVING+1F6F0aSATELLITEaONCOMING FIRE ENGINEaDIESEL LOCOMOTIVEaPASSENGER SHIPaSCOOTERabMOTOR
  aCANOEaSLEDaFLYING SAUCERaSKATEBOARDaAUTO RICKSHAWaPICKUP TRUCKaROLLER SKATE
  +1F700aALCHEMICAL SYMBOL FOR QUINTESSENCEdAIRdFIREdEARTHdWATERdAQUAFORTISdAQUA REGIAeREGIA-2eVITAE
  eVITAE-2dVINEGARdVINEGAR-2dVINEGAR-3dSULFURdbPHILOSOPHERSdbBLACKdMERCURY SUBLIMATEeSUBLIMATE-2
  eSUBLIMATE-3dCINNABARdSALTdNITREdVITRIOLdVITRIOL-2dROCK SALTeSALT-2dGOLDdSILVERdIRON OREeORE-2
  dCROCUS OF IRONdcREGULUSdCOPPER OREdbIRON-COPPERdSUBLIMATE OF COPPERdcCROCUSfCOPPER-2
  dCOPPER ANTIMONIATEdcSALT OFdSUBLIMATE OF SALT OF COPPERdVERDIGRISdTIN OREdbLEADdbANTIMONY
  dSUBLIMATE OF ANTIMONYdcSALTddSUBLIMATE OFdcVINEGARdcREGULUSfANTIMONY-2e+1F733dREGULUS-2dREGULUS-3
  dREGULUS-4dALKALIdALKALI-2dMARCASITEdSAL-AMMONIACdARSENICdREALGARdREALGAR-2dAURIPIGMENT
  dBISMUTH OREdTARTARdTARTAR-2dQUICK LIMEdBORAXdBORAX-2dBORAX-3dALUMdOILdSPIRITdTINCTUREdGUMdWAX
  dPOWDERdCALXdTUTTYdCAPUT MORTUUMdSCEPTER OF JOVEdCADUCEUSdTRIDENTdbSTARREDdLODESTONEdSOAPdURINE
  dHORSE DUNGdASHESdbPOTdBRICKdbPOWDEREDdAMALGAMdSTRATUM SUPER STRATUMfSTRATUM-2dSUBLIMATION
  dPRECIPITATEdDISTILLdDISSOLVEdDISSOLVE-2dPURIFYdPUTREFACTIONdCRUCIBLEdCRUCIBLE-2dCRUCIBLE-3
  dCRUCIBLE-4dCRUCIBLE-5dALEMBICdBATH OF MARYfVAPOURSdRETORTdHOURdNIGHTdDAY-NIGHTdMONTHdHALF DRAM
  eOUNCE+1F780aBLACK LEFT-POINTING ISOSCELES RIGHT TRIANGLEbdUP-POINTINGbdRIGHT-POINTING
  bdDOWN-POINTINGbSLIGHTLY SMALL CIRCLEabMEDIUM BOLD WHITEad+1F787acHEAVYadVERYadEXTREMELY
  abWHITE CIRCLE CONTAINING BLACK SMALLaROUND TARGETaBLACK TINY SQUAREbbSLIGHTLY SMALLabLIGHT WHITE
  acMEDIUMacBOLDacHEAVYadVERYadEXTREMELYabWHITE SQUARE CONTAINING BLACK VERY SMALLebMEDIUM
  aSQUARE TARGETaBLACK TINY DIAMONDbbVERY SMALLbcMEDIUMacWHITE DIAMOND CONTAINING BLACK VERYebMEDIUM
  aDIAMOND TARGETaBLACK TINY LOZENGEbbVERY SMALLbcMEDIUMacWHITE LOZENGE CONTAINING BLACK
  aTHIN GREEK CROSSacLIGHTacMEDIUMacBOLDadVERYbcHEAVYadEXTREMELYaTHIN SALTIREabLIGHTabMEDIUMabBOLD
  abHEAVYacVERYacEXTREMELYaLIGHT FIVE SPOKED ASTERISKadMEDIUMadBOLDadHEAVYaeVERYaeEXTREMELY
  acLIGHT SIXadMEDIUMadBOLDadHEAVYaeVERYaeEXTREMELYacLIGHT EIGHTadMEDIUMadBOLDadHEAVYaeVERY
  aLIGHT THREE POINTED BLACK STARaeMEDIUMae+1F7C3abMEDIUM THREE POINTED PINWHEEL
  abLIGHT FOUR POINTED BLACKaeMEDIUMae+1F7C7abMEDIUM FOUR POINTED PINWHEELaeREVERSE LIGHT
  abLIGHT FIVE POINTED BLACKaeHEAVYadMEDIUM SIXaeHEAVYabSIX POINTED PINWHEEL
  abMEDIUM EIGHT POINTED BLACKaeHEAVYafVERYabHEAVY EIGHT POINTED PINWHEEL
  abLIGHT TWELVE POINTED BLACKaeHEAVYdbPINWHEELaCIRCLED TRIANGLEacNEGATIVEaCIRCLED SQUAREacNEGATIVE
  +1F7E0aLARGE ORANGE CIRCLEbbYELLOWbbGREENbbPURPLEbbBROWNbRED SQUAREbbBLUEbbORANGEbbYELLOWbbGREEN
  bbPURPLEbbBROWN+1F7F0aHEAVY EQUALS SIGN+1F800aLEFTWARDS ARROW WITH SMALL TRIANGLE ARROWHEAD
  afUPWARDSafRIGHTWARDSafDOWNWARDSacLEFTWARDS ARROW WITH MEDIUMafUPWARDSafRIGHTWARDSafDOWNWARDS
  acLEFTWARDS ARROW WITH LARGEafUPWARDSafRIGHTWARDSafDOWNWARDS
  +1F810abLEFTWARDS ARROW WITH SMALL EQUILATERALafUPWARDSafRIGHTWARDSafDOWNWARDS
  acLEFTWARDS ARROW WITHaeUPWARDSaeRIGHTWARDSaeDOWNWARDSaeHEAVY LEFTWARDSbeUPWARDSbeRIGHTWARDS
  beDOWNWARDSbcLEFTWARDS ARROW WITH LARGEbfUPWARDSbfRIGHTWARDSbfDOWNWARDS
  aLEFTWARDS TRIANGLE-HEADED ARROW WITH NARROW SHAFTafUPWARDSafRIGHTWARDSafDOWNWARDS
  abLEFTWARDS TRIANGLE-HEADED ARROW WITH MEDIUMafUPWARDSafRIGHTWARDSafDOWNWARDS
  abLEFTWARDS TRIANGLE-HEADED ARROW WITH BOLDafUPWARDSafRIGHTWARDSafDOWNWARDS
  abLEFTWARDS TRIANGLE-HEADED ARROW WITH HEAVYafUPWARDSafRIGHTWARDSafDOWNWARDS
  acLEFTWARDS TRIANGLE-HEADED ARROW WITH VERYagUPWARDSagRIGHTWARDSagDOWNWARDS
  aLEFTWARDS FINGER-POST ARROWacUPWARDSacRIGHTWARDSacDOWNWARDSabLEFTWARDS SQUAREDacUPWARDS
  acRIGHTWARDSacDOWNWARDSabLEFTWARDS COMPRESSEDacUPWARDSacRIGHTWARDSacDOWNWARDSacLEFTWARDS HEAVY
  adUPWARDSadRIGHTWARDSadDOWNWARDSabLEFTWARDS HEAVYacUPWARDSacRIGHTWARDSacDOWNWARDS
  +1F850abLEFTWARDS SANS-SERIFacUPWARDSacRIGHTWARDSacDOWNWARDSacNORTH WESTbcEASTadSOUTHbcWEST
  acLEFT RIGHTacUP DOWN+1F860abWIDE-HEADED LEFTWARDS LIGHT BARBbdUPWARDSbdRIGHTWARDSbdDOWNWARDS
  bdNORTH WESTcdEASTbeSOUTHcdWESTbcLEFTWARDSbcUPWARDSbcRIGHTWARDSbcDOWNWARDSbcNORTH WESTccEAST
  bdSOUTHccWESTbcLEFTWARDS MEDIUMbdUPWARDSbdRIGHTWARDSbdDOWNWARDSbdNORTH WESTcdEASTbeSOUTHcdWEST
  bcLEFTWARDS HEAVYbdUPWARDSbdRIGHTWARDSbdDOWNWARDSbdNORTH WESTcdEASTbeSOUTHcdWESTbdLEFTWARDS VERY
  beUPWARDSbeRIGHTWARDSbeDOWNWARDSbeNORTH WESTceEASTbfSOUTHceWEST+1F890aLEFTWARDS TRIANGLE ARROWHEAD
  acUPWARDSacRIGHTWARDSacDOWNWARDSacLEFTWARDS WHITE ARROW WITHINafUPWARDSafRIGHTWARDSafDOWNWARDS
  aLEFTWARDS ARROW WITH NOTCHED TAILaeUPWARDSaeRIGHTWARDSaeDOWNWARDSaHEAVY ARROW SHAFT WIDTH ONE
  eTWO THIRDSeONE HALFfTHIRDaLEFTWARDS BOTTOM-SHADED WHITE ARROWacRIGHTWARDS BOTTOM SHADED
  adLEFTWARDS TOPaeRIGHTWARDSacLEFTWARDS LEFT-SHADEDacRIGHTWARDS RIGHT-SHADEDadLEFTWARDS
  acRIGHTWARDS LEFT-SHADEDacLEFTWARDS BACK-TILTED SHADOWEDaeRIGHTWARDSadLEFTWARDS FRONT-TILTED
  aeRIGHTWARDSaWHITE ARROW SHAFT WIDTH ONEeTWO THIRDS+1F8B0aARROW POINTING UPWARDS THEN NORTH WEST
  cbRIGHTWARDS THEN CURVING SOUTH+1F900aCIRCLED CROSS FORMEE WITH FOUR DOTSebTWOd
  +1F903aLEFT HALF CIRCLE WITH FOUR DOTSebTHREEebTWOeDOTd+1F908aDOWNWARD FACING HOOKcbNOTCHED
  cHOOK WITH DOTcdNOTCHEDaPINCHED FINGERSaWHITE HEARTabBROWNaPINCHING HANDaZIPPER-MOUTH FACE
  abMONEY-MOUTHaFACE WITH THERMOMETERaNERD FACEabTHINKINGaFACE WITH HEAD-BANDAGEaROBOT FACEabHUGGING
  aSIGN OF THE HORNSaCALL ME HANDabRAISED BACK OFaLEFT-FACING FISTabRIGHT-FACINGaHANDSHAKE
  aHAND WITH INDEX AND MIDDLE FINGERS CROSSEDaI LOVE YOU HAND SIGNaFACE WITH COWBOY HATaCLOWN FACE
  abNAUSEATEDaROLLING ON THE FLOOR LAUGHINGaDROOLING FACEabLYINGaFACE PALMaSNEEZING FACE
  aFACE WITH ONE EYEBROW RAISEDaGRINNING FACE WITH STAR EYESdONE LARGE AND ONE SMALL EYE
  aFACE WITH FINGER COVERING CLOSED LIPSaSERIOUS FACE WITH SYMBOLS COVERING MOUTH
  acSMILING FACE WITH SMILING EYES AND HANDaFACE WITH OPEN MOUTH VOMITING
  aSHOCKED FACE WITH EXPLODING HEADaPREGNANT WOMANaBREAST-FEEDINGaPALMS UP TOGETHERaSELFIEaPRINCE
  aMAN IN TUXEDOaMOTHER CHRISTMASaSHRUGaPERSON DOING CARTWHEELaJUGGLINGaFENCERaMODERN PENTATHLON
  aWRESTLERSaWATER POLOaHANDBALLaDIVING MASKaWILTED FLOWERaDRUM WITH DRUMSTICKSaCLINKING GLASSES
  aTUMBLER GLASSaSPOONaGOAL NETaRIFLEaFIRST PLACE MEDALacSECONDacTHIRDaBOXING GLOVE
  aMARTIAL ARTS UNIFORMaCURLING STONEaLACROSSE STICK AND BALLaSOFTBALLaFLYING DISCaCROISSANTaAVOCADO
  aCUCUMBERaBACONaPOTATOaCARROTaBAGUETTE BREADaGREEN SALADaSHALLOW PAN OF FOODaSTUFFED FLATBREADaEGG
  aGLASS OF MILKaPEANUTSaKIWIFRUITaPANCAKESaDUMPLINGaFORTUNE COOKIEaTAKEOUT BOXaCHOPSTICKS
  aBOWL WITH SPOONaCUP WITH STRAWaCOCONUTaBROCCOLIaPIEaPRETZELaCUT OF MEATaSANDWICHaCANNED FOOD
  aLEAFY GREENaMANGOaMOON CAKEaBAGELaSMILING FACE WITH SMILING EYES AND THREE HEARTSaYAWNING FACE
  aSMILING FACE WITH TEARaFACE WITH PARTY HORN AND PARTY HATcUNEVEN EYES AND WAVY MOUTH
  aOVERHEATED FACEabFREEZINGaNINJAaDISGUISED FACEaFACE HOLDING BACK TEARSbWITH PLEADING EYESaSARI
  aLAB COATaGOGGLESaHIKING BOOTaFLAT SHOEaCRABaLION FACEaSCORPIONaTURKEYaUNICORN FACEaEAGLEaDUCKaBAT
  aSHARKaOWLaFOX FACEaBUTTERFLYaDEERaGORILLAaLIZARDaRHINOCEROSaSHRIMPaSQUIDaGIRAFFE FACEabZEBRA
  aHEDGEHOGaSAUROPODaT-REXaCRICKETaKANGAROOaLLAMAaPEACOCKaHIPPOPOTAMUSaPARROTaRACCOONaLOBSTER
  aMOSQUITOaMICROBEaBADGERaSWANaMAMMOTHaDODOaSLOTHaOTTERaORANGUTANaSKUNKaFLAMINGOaOYSTERaBEAVER
  aBISONaSEALaGUIDE DOGaPROBING CANEaEMOJI COMPONENT RED HAIRcbCURLYcBALDcWHITE HAIRaBONEaLEGaFOOT
  aTOOTHaSUPERHEROaSUPERVILLAINaSAFETY VESTaEAR WITH HEARING AIDaMOTORIZED WHEELCHAIRabMANUAL
  aMECHANICAL ARMbLEGaCHEESE WEDGEaCUPCAKEaSALT SHAKERaBEVERAGE BOXaGARLICaONIONaFALAFELaWAFFLE
  aBUTTERaMATE DRINKaICE CUBEaBUBBLE TEAaTROLLaSTANDING PERSONabKNEELINGabDEAFaFACE WITH MONOCLE
  aADULTaCHILDaOLDER ADULTaBEARDED PERSONaPERSON WITH HEADSCARFbIN STEAMY ROOMbCLIMBING
  bIN LOTUS POSITIONaMAGEaFAIRYaVAMPIREaMERPERSONaELFaGENIEaZOMBIEaBRAINaORANGE HEARTaBILLED CAP
  aSCARFaGLOVESaCOATaSOCKSaRED GIFT ENVELOPEaFIRECRACKERaJIGSAW PUZZLE PIECEaTEST TUBEaPETRI DISH
  aDNA DOUBLE HELIXaCOMPASSaABACUSaFIRE EXTINGUISHERaTOOLBOXaBRICKaMAGNETaLUGGAGEaLOTION BOTTLE
  aSPOOL OF THREADaBALL OF YARNaSAFETY PINaTEDDY BEARaBROOMaBASKETaROLL OF PAPERaBAR OF SOAPaSPONGE
  aRECEIPTaNAZAR AMULETaNEUTRAL CHESS KINGcQUEENcROOKcBISHOPcKNIGHTcPAWN
  aWHITE CHESS KNIGHT ROTATED FORTY-FIVE DEGREESafBLACKafNEUTRALabWHITE CHESS KING ROTATED NINETY
  cdQUEENcdROOKcdBISHOPcdKNIGHTcdPAWNadBLACK CHESS KINGcdQUEENcdROOKcdBISHOPcdKNIGHTcdPAWN
  adNEUTRAL CHESS KINGcdQUEENcdROOKcdBISHOPcdKNIGHTcdPAWN
  abWHITE CHESS KNIGHT ROTATED ONE HUNDRED THIRTY-FIVEahBLACKahNEUTRALaWHITE CHESS TURNED KINGdQUEEN
  dROOKdBISHOPdKNIGHTdPAWNaBLACK CHESS TURNED KINGdQUEENdROOKdBISHOPdKNIGHTdPAWN
  aNEUTRAL CHESS TURNED KINGdQUEENdROOKdBISHOPdKNIGHTdPAWN
  aWHITE CHESS KNIGHT ROTATED TWO HUNDRED TWENTY-FIVE DEGREESahBLACKahNEUTRAL
  abWHITE CHESS KING ROTATED TWO HUNDRED SEVENTYcfQUEENcfROOKcfBISHOPcfKNIGHTcfPAWN
  afBLACK CHESS KINGcfQUEENcfROOKcfBISHOPcfKNIGHTcfPAWNafNEUTRAL CHESS KINGcfQUEENcfROOKcfBISHOP
  cfKNIGHTcfPAWNabWHITE CHESS KNIGHT ROTATED THREE HUNDRED FIFTEENahBLACKahNEUTRAL
  aWHITE CHESS EQUIHOPPERacBLACKacNEUTRALaWHITE CHESS EQUIHOPPER ROTATED NINETY DEGREESafBLACK
  afNEUTRALaWHITE CHESS KNIGHT-QUEENcKNIGHT-ROOKcKNIGHT-BISHOPaBLACK CHESS KNIGHT-QUEENcKNIGHT-ROOK
  cKNIGHT-BISHOP+1FA60aXIANGQI RED GENERALcMANDARINcELEPHANTcHORSEcCHARIOTcCANNONcSOLDIER
  bBLACK GENERALcMANDARINcELEPHANTcHORSEcCHARIOTcCANNONcSOLDIER+1FA70aBALLET SHOES
  aONE-PIECE SWIMSUITaBRIEFSaSHORTSaTHONG SANDAL+1FA78aDROP OF BLOODaADHESIVE BANDAGEaSTETHOSCOPE
  aX-RAYaCRUTCH+1FA80aYO-YOaKITEaPARACHUTEaBOOMERANGaMAGIC WANDaPINATAaNESTING DOLLS
  +1FA90aRINGED PLANETaCHAIRaRAZORaAXEaDIYA LAMPaBANJOaMILITARY HELMETaACCORDIONaLONG DRUMaCOIN
  aCARPENTRY SAWaSCREWDRIVERaLADDERaHOOKaMIRRORaWINDOWaPLUNGERaSEWING NEEDLEaKNOTaBUCKETaMOUSE TRAP
  aTOOTHBRUSHaHEADSTONEaPLACARDaROCKaMIRROR BALLaIDENTIFICATION CARDaLOW BATTERYaHAMSA+1FAB0aFLY
  aWORMaBEETLEaCOCKROACHaPOTTED PLANTaWOODaFEATHERaLOTUSaCORALaEMPTY NESTaNEST WITH EGGS
  +1FAC0aANATOMICAL HEARTaLUNGSaPEOPLE HUGGINGaPREGNANT MANbPERSONaPERSON WITH CROWN
  +1FAD0aBLUEBERRIESaBELL PEPPERaOLIVEaFLATBREADaTAMALEaFONDUEaTEAPOTaPOURING LIQUIDaBEANSaJAR
  +1FAE0aMELTING FACEabSALUTINGaFACE WITH OPEN EYES AND HAND OVER MOUTHcPEEKING EYEcDIAGONAL MOUTH
  aDOTTED LINE FACEaBITING LIPaBUBBLES+1FAF0aHAND WITH INDEX FINGER AND THUMB CROSSED
  aRIGHTWARDS HANDabLEFTWARDSabPALM DOWNbbUPaINDEX POINTING AT THE VIEWERaHEART HANDS
  +1FB00aBLOCK SEXTANT-1bSEXTANT-2bSEXTANT-12bSEXTANT-3bSEXTANT-13bSEXTANT-23bSEXTANT-123bSEXTANT-4
  bSEXTANT-14bSEXTANT-24bSEXTANT-124bSEXTANT-34bSEXTANT-134bSEXTANT-234bSEXTANT-1234bSEXTANT-5
  bSEXTANT-15bSEXTANT-25bSEXTANT-125bSEXTANT-35bSEXTANT-235bSEXTANT-1235bSEXTANT-45bSEXTANT-145
  bSEXTANT-245bSEXTANT-1245bSEXTANT-345bSEXTANT-1345bSEXTANT-2345bSEXTANT-12345bSEXTANT-6bSEXTANT-16
  bSEXTANT-26bSEXTANT-126bSEXTANT-36bSEXTANT-136bSEXTANT-236bSEXTANT-1236bSEXTANT-46bSEXTANT-146
  bSEXTANT-1246bSEXTANT-346bSEXTANT-1346bSEXTANT-2346bSEXTANT-12346bSEXTANT-56bSEXTANT-156
  bSEXTANT-256bSEXTANT-1256bSEXTANT-356bSEXTANT-1356bSEXTANT-2356bSEXTANT-12356bSEXTANT-456
  bSEXTANT-1456bSEXTANT-2456bSEXTANT-12456bSEXTANT-3456bSEXTANT-13456bSEXTANT-23456
  aLOWER LEFT BLOCK DIAGONAL LOWER MIDDLE LEFT TO LOWER CENTREjRIGHT
  eUPPER MIDDLE LEFT TO LOWER CENTREjRIGHTfLEFT TO LOWER CENTRE
  bbRIGHT BLOCK DIAGONAL UPPER MIDDLE LEFT TO UPPERjRIGHTeLOWER MIDDLE LEFT TO UPPER CENTREjRIGHT
  fLEFT TO UPPER CENTREfMIDDLE LEFT TO UPPER MIDDLE RIGHTfcCENTRE TO LOWERfeLEFTfcCENTRE TO UPPER
  feLEFTfbCENTRE TO UPPERbbLEFT BLOCK DIAGONAL UPPER CENTRE TO UPPER MIDDLEfeLEFTfcCENTRE TO LOWER
  feLEFTfbCENTRE TO LOWERfbMIDDLE LEFT TO LOWER MIDDLE
  aUPPER RIGHT BLOCK DIAGONAL LOWER MIDDLE LEFT TO LOWER CENTREjRIGHT
  eUPPER MIDDLE LEFT TO LOWER CENTREjRIGHTfLEFT TO LOWER CENTRE
  bbLEFT BLOCK DIAGONAL UPPER MIDDLE LEFT TO UPPERjRIGHTeLOWER MIDDLE LEFT TO UPPER CENTREjRIGHT
  fLEFT TO UPPER CENTREfMIDDLE LEFT TO UPPER MIDDLE RIGHTfcCENTRE TO LOWERfeLEFTfcCENTRE TO UPPER
  feLEFTfbCENTRE TO UPPERbbRIGHT BLOCK DIAGONAL UPPER CENTRE TO UPPER MIDDLEfeLEFTfcCENTRE TO LOWER
  feLEFTfbCENTRE TO LOWERfbMIDDLE LEFT TO LOWER MIDDLE
  bAND RIGHT AND LOWER TRIANGULAR THREE QUARTERS BLOCKaeLEFT AND LOWER AND RIGHT
  aeUPPER AND LEFT AND LOWERaeLEFT AND UPPER AND RIGHTbbTRIANGULAR ONE QUARTERaeUPPERaeRIGHTaeLOWER
  aVERTICAL ONE EIGHTH BLOCK-2dBLOCK-3dBLOCK-4dBLOCK-5dBLOCK-6dBLOCK-7aHORIZONTAL ONE EIGHTH BLOCK-2
  dBLOCK-3dBLOCK-4dBLOCK-5dBLOCK-6dBLOCK-7aLEFT AND LOWER ONE EIGHTH BLOCKcdUPPERafRIGHTcdLOWER
  afUPPERaHORIZONTAL ONE EIGHTH BLOCK-1358aUPPER ONE QUARTER BLOCKbbTHREE EIGHTHSbcFIVE
  bbTHREE QUARTERSbbSEVEN EIGHTHSabRIGHT ONE QUARTERbbTHREE EIGHTHSbcFIVEbbTHREE QUARTERS
  bbSEVEN EIGHTHSaLEFT HALF MEDIUM SHADEadRIGHTadUPPERadLOWERacINVERSE
  adUPPER HALF BLOCK AND LOWER HALFcINVERSE MEDIUM SHADE AND LOWER HALF BLOCK
  +1FB94acLEFT HALF INVERSE MEDIUM SHADE AND RIGHTaCHECKER BOARD FILLadINVERSEabHEAVY HORIZONTAL
  abUPPER LEFT TO LOWER RIGHTbbRIGHT TO LOWER LEFTbAND LOWER TRIANGULAR HALF BLOCKadLEFT AND RIGHT
  aUPPER LEFT TRIANGULAR MEDIUM SHADEbdRIGHTaeLOWERbdLEFT
  aBOX DRAWINGS LIGHT DIAGONAL UPPER CENTRE TO MIDDLE LEFTiRIGHTeMIDDLE LEFT TO LOWER CENTREfdRIGHT
  edUPPER CENTRE TO MIDDLE LEFTidRIGHTeMIDDLE LEFT TO LOWER CENTRE TO MIDDLE RIGHTheUPPER
  eUPPER CENTRE TO MIDDLE LEFT AND MIDDLE RIGHT TO LOWER CENTREidRIGHT AND MIDDLE LEFT
  jTO LOWER CENTRE TO MIDDLE LEFTiLEFT TO LOWER CENTRE TO MIDDLE RIGHT
  eMIDDLE LEFT TO UPPER CENTRE TO MIDDLE RIGHT TO LOWER CENTREfdRIGHT TO UPPER CENTRE TO MIDDLE LEFT
  eDIAMONDdHORIZONTAL WITH VERTICAL STROKEaARROWHEAD-SHAPED POINTERaINVERSE CHECK MARK
  aLEFT HALF RUNNING MANadRIGHTaINVERSE DOWNWARDS ARROW WITH TIP LEFTWARDS
  aLEFTWARDS ARROW AND UPPER AND LOWER ONE EIGHTH BLOCKaiRIGHTWARDSadDOWNWARDS ARROW AND RIGHT
  agUPWARDSaLEFT HALF FOLDERacRIGHTaVOIDED GREEK CROSSaRIGHT OPEN SQUARED DOT
  aNEGATIVE DIAGONAL CROSScMIDDLE RIGHT TO LOWER CENTREcDIAMOND
  aWHITE HEAVY SALTIRE WITH ROUNDED CORNERSaLEFT THIRD WHITE RIGHT POINTING INDEXafMIDDLEafRIGHT
  aNEGATIVE SQUARED QUESTION MARKaSTICK FIGUREcWITH ARMS RAISEDcLEANING LEFTdRIGHTcWITH DRESS
  aWHITE UP-POINTING CHEVRON+1FBF0aSEGMENTED DIGIT ZEROcONEcTWOcTHREEcFOURcFIVEcSIXcSEVENcEIGHTcNINE
  +E0001aLANGUAGE TAG+E0020aTAG SPACEbEXCLAMATION MARKbbQUOTATIONbNUMBER SIGNbbDOLLARbbPERCENT
  bAMPERSANDbAPOSTROPHEbLEFT PARENTHESISbbRIGHTbASTERISKbPLUS SIGNbCOMMAbHYPHEN-MINUSbFULL STOP
  bSOLIDUSbDIGIT ZEROcONEcTWOcTHREEcFOURcFIVEcSIXcSEVENcEIGHTcNINEbCOLONbSEMICOLONbLESS-THAN SIGN
  bbEQUALSbbGREATER-THANbQUESTION MARKbCOMMERCIAL ATbLATIN CAPITAL LETTER AeBeCeDeEeFeGeHeIeJeKeLeM
  eNeOePeQeReSeTeUeVeWeXeYeZbLEFT SQUARE BRACKETbREVERSE SOLIDUSbRIGHT SQUARE BRACKET
  bCIRCUMFLEX ACCENTbLOW LINEbGRAVE ACCENTbLATIN SMALL LETTER AeBeCeDeEeFeGeHeIeJeKeLeMeNeOePeQeReS
  eTeUeVeWeXeYeZbLEFT CURLY BRACKETbVERTICAL LINEbRIGHT CURLY BRACKETbTILDEaCANCEL TAG"

end RecordPattern.Text.CharName
